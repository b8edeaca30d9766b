import Descent.Text.Lowercase
import Descent.Token.Lexer

set_option autoImplicit false

namespace Descent

inductive VocabularyError where
  | duplicated (name : String)
  | unavailable (name : String)
  deriving DecidableEq, Repr

def VocabularyError.message : VocabularyError → String
  | duplicated name => name ++ " duplicated"
  | unavailable name => "token " ++ name ++ " unavailable"

inductive CaseSensitivity where
  | sensitive
  | insensitive
  deriving DecidableEq, Repr

def CaseSensitivity.key : CaseSensitivity → String → String
  | sensitive, s => s
  | insensitive, s => Text.toLower s

structure Operators where
  names : List String

namespace Operators

-- The empty name could never be lexed. Names of one length stay in the order given.
def ofList (names : List String) : Operators :=
  ⟨(Detail.distinct (names.filter (· ≠ ""))).mergeSort fun x y =>
    decide (y.utf8ByteSize ≤ x.utf8ByteSize)⟩

def get? (t : Operators) (name : String) : Option Token :=
  if t.names.contains name then some (.reserved name) else none

def size (t : Operators) : Nat := t.names.length

def isEmpty (t : Operators) : Bool := t.names.isEmpty

def nameLexer {β : Type} (name : String) : Lexer β :=
  .lex
    (match name.toList with
      | [c] => Scanner.char c
      | _ => Scanner.string name)
    (TokenReader.value (.reserved name))

def lexer {β : Type} (t : Operators) : Lexer β := Parser.plus (t.names.map nameLexer)

end Operators

structure Keywords (β : Type) where
  case : CaseSensitivity
  entries : List (String × Token)
  word : Scanner β
  unknown : String → Token

namespace Keywords

variable {β : Type}

def insert (case : CaseSensitivity) (entries : List (String × Token)) (name : String) :
    List (String × Token) :=
  if (entries.lookup (case.key name)).isSome then entries
  else entries ++ [(case.key name, .reserved name)]

def withScanner (word : Scanner β) (names : List String) (case : CaseSensitivity)
    (unknown : String → Token) : Keywords β :=
  ⟨case, names.foldl (insert case) [], word, unknown⟩

def defaultWord : Scanner β := .pattern Pattern.word "word"

def ofList (names : List String) (case : CaseSensitivity) (unknown : String → Token) :
    Keywords β :=
  withScanner defaultWord names case unknown

def get? (t : Keywords β) (name : String) : Option Token := t.entries.lookup (t.case.key name)

def size (t : Keywords β) : Nat := t.entries.length

def isEmpty (t : Keywords β) : Bool := t.entries.isEmpty

def classify (t : Keywords β) (text : String) : Token := (t.get? text).getD (t.unknown text)

def lexer (t : Keywords β) : Lexer β :=
  .lex t.word (TokenReader.ofText fun s => .ok (t.classify (String.ofList s)))

end Keywords

structure Vocabulary (β : Type) where
  operators : Operators
  keywords : Option (Keywords β)

namespace Vocabulary

variable {β : Type}

def ofOperators (names : List String) : Vocabulary β := ⟨Operators.ofList names, none⟩

-- A keyword spelled like an operator is refused whatever the case policy.
def withScanner (word : Scanner β) (operators keywords : List String) (case : CaseSensitivity)
    (unknown : String → Token) : Except VocabularyError (Vocabulary β) :=
  match operators.find? keywords.contains with
  | some name => .error (.duplicated name)
  | none =>
    .ok ⟨Operators.ofList operators, some (Keywords.withScanner word keywords case unknown)⟩

def ofList (operators keywords : List String) (case : CaseSensitivity) :
    Except VocabularyError (Vocabulary β) :=
  withScanner Keywords.defaultWord operators keywords case Token.plainWord

def token (t : Vocabulary β) (name : String) : Except VocabularyError Token :=
  match (t.operators.get? name).or (t.keywords.bind (·.get? name)) with
  | some token => .ok token
  | none => .error (.unavailable name)

def lexer (t : Vocabulary β) : Lexer β :=
  match t.keywords with
  | none => t.operators.lexer
  | some k => Parser.plus [t.operators.lexer, k.lexer]

def parserLabelled (t : Vocabulary β) (names : List String) (label : String) :
    Except VocabularyError (Lexer β) := do
  if names.isEmpty then return Parser.zero
  let tokens ← names.mapM t.token
  return .label label (Parser.plus (tokens.map fun token => Parser.tokenWhere (·.token = token)))

def parser (t : Vocabulary β) (names : List String) : Except VocabularyError (Lexer β) :=
  t.parserLabelled names ("[" ++ String.intercalate "," names ++ "]")

def tokenParser (t : Vocabulary β) (name : String) : Except VocabularyError (Lexer β) := do
  let token ← t.token name
  return Parser.rename name (.label name (Parser.tokenWhere (·.token = token)))

end Vocabulary

end Descent
