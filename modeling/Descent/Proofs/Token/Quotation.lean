import Descent.Proofs.Pattern.Repetition
import Descent.Proofs.Token.Literal

set_option autoImplicit false

namespace Descent

open Text (size)

namespace TokenReader

def escape (marked : List Char) (c : Char) : List Char := if c ∈ marked then ['\\', c] else [c]

def double (c : Char) : List Char := if c = '\x27' then ['\x27', '\x27'] else [c]

end TokenReader

open TokenReader (escape double)

theorem Matcher.repeated_pieces {m : Matcher} (fits : m.Fits) {piece : Char → List Char}
    (some : ∀ c, piece c ≠ [])
    (matched : ∀ c r, m (piece c ++ r) = Option.some (size (piece c))) {rest : List Char}
    (stops : m rest = none) (text : List Char) :
    repeated m 0 none (text.flatMap piece ++ rest) = Option.some (size (text.flatMap piece)) := by
  have counted : upTo m none (text.flatMap piece ++ rest) = size (text.flatMap piece) := by
    induction text with
    | nil => exact upTo_of_none none stops
    | cons c text ih =>
      rw [List.flatMap_cons, List.append_assoc, Text.size_append]
      rw [upTo_of_some fits (by simp) (matched c _) (Text.size_pos (some c)).ne'
        (Text.drop?_size_append ..)]
      exact congrArg _ ih
  rw [repeated_eq]
  simp [rounds, counted]

variable {marked : List Char}

namespace TokenReader

theorem escape_ne_nil (marked : List Char) (c : Char) : escape marked c ≠ [] := by
  unfold escape
  split <;> simp

theorem unescape_marked {quote c : Char} (itself : unescape quote = quote)
    (member : c ∈ [quote, '\\']) : unescape c = c := by
  rcases List.mem_pair.1 member with rfl | rfl
  · exact itself
  · rfl

theorem unescapeAll_escape {quote : Char} (itself : unescape quote = quote) (text : List Char) :
    unescapeAll (text.flatMap (escape [quote, '\\'])) = text := by
  induction text with
  | nil => rfl
  | cons c text ih =>
    rw [List.flatMap_cons, escape]
    split
    case isTrue member => simp [unescapeAll, unescape_marked itself member, ih]
    case isFalse plain =>
      have other : c ≠ '\\' := fun same => plain (by simp [same])
      simp [unescapeAll, other, ih]

end TokenReader

def escapedOr (marked : List Char) : Pattern := .orElse .escaped (.noneOf marked)

theorem escapedOr_piece (backslash : '\\' ∈ marked) (c : Char) (r : List Char) :
    (escapedOr marked).run (escape marked c ++ r) = some (size (escape marked c)) := by
  have recognizes := Matcher.escaped_recognizes.any
    (Matcher.charWhere_recognizes (CharClass.noneOf marked).test)
  rw [escapedOr, Pattern.orElse_run, Pattern.run, Pattern.noneOf, Pattern.run,
    recognizes.iff_related]
  unfold escape
  split
  case isTrue => exact .inl ⟨c, rfl⟩
  case isFalse plain =>
    have other : c ≠ '\\' := fun same => plain (same ▸ backslash)
    refine .inr ⟨?_, c, rfl, by simpa [CharClass.noneOf] using plain⟩
    rw [List.singleton_append, Matcher.escaped]
    simp [other]

theorem escapedOr_stops {quote : Char} (member : quote ∈ marked) (other : quote ≠ '\\')
    (r : List Char) : (escapedOr marked).run (quote :: r) = none := by
  rw [escapedOr, Pattern.orElse_run, Pattern.run, Pattern.noneOf, Pattern.run]
  simp [Matcher.any, Matcher.escaped, Matcher.charWhere, CharClass.noneOf, member, other]

namespace TokenReader

theorem double_ne_nil (c : Char) : double c ≠ [] := by
  unfold double
  split <;> simp

theorem undouble_double (text : List Char) :
    undouble (text.flatMap double) = text := by
  induction text with
  | nil => rfl
  | cons c text ih =>
    rw [List.flatMap_cons, double]
    split
    case isTrue quote => simp [undouble, quote, ih]
    case isFalse plain => simp [undouble, plain, ih]

end TokenReader

def doubledOr : Pattern := .orElse (.text ['\x27', '\x27']) (.notChar '\x27')

theorem doubledOr_piece (c : Char) (r : List Char) :
    doubledOr.run (double c ++ r) = some (size (double c)) := by
  rw [doubledOr, Pattern.orElse_run, Pattern.notChar]
  simp only [Pattern.run]
  rw [((Matcher.text_recognizes _).any (Matcher.charWhere_recognizes _)).iff_related]
  unfold double
  split
  case isTrue => exact .inl rfl
  case isFalse plain =>
    refine .inr ⟨?_, c, rfl, by simpa [CharClass.except] using plain⟩
    simp [Matcher.text, Ne.symm plain]

theorem doubledOr_stops {r : List Char} (single : r.head? ≠ some '\x27') :
    doubledOr.run ('\x27' :: r) = none := by
  have apart : ¬ ['\x27'] <+: r := by
    rintro ⟨u, rfl⟩
    exact single rfl
  rw [doubledOr, Pattern.orElse_run, Pattern.notChar]
  simp [Pattern.run, Matcher.any, Matcher.text, Matcher.charWhere, CharClass.except, apart]

namespace Lexer

open TokenReader

variable {β : Type} {calls : Calls β}

theorem reads_between (calls : Calls β) {opening closing : Char} {p : Pattern}
    {title name l l' l'' : String} {body rest : List Char}
    {f : List Char → Except TokenError Token} {token : Token}
    (matched : p.run (body ++ closing :: rest) = some (size body))
    (read : f ([opening] ++ (body ++ [closing])) = .ok token) :
    Reads calls (.named title (.lex (.named name (Parser.between (.pattern (.char opening) l)
      (.pattern (.char closing) l'') (.pattern p l'))) (TokenReader.ofText f)))
      (opening :: body ++ [closing]) rest token := by
  have recognized : ((Pattern.char opening).run.andThen
      (p.run.andThen (Pattern.char closing).run)) ([opening] ++ (body ++ [closing]) ++ rest) =
        some (size ([opening] ++ (body ++ [closing]))) := by
    refine (between_recognizes opening closing p.run_fits).iff_related.2 ⟨body, rfl, ?_⟩
    rwa [List.append_assoc]
  exact reads_of_scans (fun _ _ _ => (Scanner.between_scans rfl ..).named name) recognized read
    title

theorem stringLiteral_decodes (calls : Calls β) (text : String) (rest : List Char) :
    (stringLiteral : Lexer β).Reads calls
      ('\x22' :: text.toList.flatMap (escape ['\x22', '\\']) ++ ['\x22']) rest
      (.string text) := by
  refine reads_between calls (p := .many 0 (escapedOr ['\x22', '\\'])) ?_ ?_
  · rw [Pattern.run]
    exact Matcher.repeated_pieces (Pattern.run_fits _) (escape_ne_nil _)
      (escapedOr_piece (by simp)) (escapedOr_stops (by simp) (by decide) rest) _
  · refine (strip_bind (by simp) (by simp) _ _).trans ?_
    rw [unescapeAll_escape (by decide), String.ofList_toList]
    rfl

theorem sqlStringLiteral_decodes (calls : Calls β) (text : String) {rest : List Char}
    (single : rest.head? ≠ some '\x27') :
    (sqlStringLiteral : Lexer β).Reads calls
      ('\x27' :: text.toList.flatMap double ++ ['\x27']) rest (.string text) := by
  refine reads_between calls (p := .many 0 doubledOr) ?_ ?_
  · rw [Pattern.run]
    exact Matcher.repeated_pieces (Pattern.run_fits _) double_ne_nil doubledOr_piece
      (doubledOr_stops single) _
  · refine (strip_bind (by simp) (by simp) _ _).trans ?_
    rw [undouble_double, String.ofList_toList]
    rfl

theorem charLiteral_decodes (calls : Calls β) (c : Char) (rest : List Char) :
    (charLiteral : Lexer β).Reads calls ('\x27' :: escape ['\x27', '\\'] c ++ ['\x27']) rest
      (.char c) := by
  refine reads_between calls (p := escapedOr ['\x27', '\\']) (escapedOr_piece (by simp) c _) ?_
  by_cases member : c ∈ ['\x27', '\\']
  · rw [escape, if_pos member]
    exact congrArg (fun c => Except.ok (Token.char c)) (unescape_marked rfl member)
  · rw [escape, if_neg member]
    rfl

theorem quotedString_decodes (calls : Calls β) (opening : Char) {closing : Char} {body : String}
    (without : closing ∉ body.toList) (rest : List Char) :
    (quotedString opening closing : Lexer β).Reads calls
      (opening :: body.toList ++ [closing]) rest
      (.quoted opening.toString body closing.toString) := by
  refine reads_of_scans (fun _ _ _ => Scanner.quotedBy_scans rfl opening closing)
    ((quotedBy_recognizes opening closing).iff_related.2 ⟨body.toList, rfl, without⟩) ?_ _
  refine (strip_bind (by simp [Char.toString]) (by simp [Char.toString]) _ _).trans ?_
  rw [String.ofList_toList]
  rfl

/-- Whatever stands before and after it, a quoted text is read as the text that it was. -/
theorem literals_decode (calls : Calls β) (rest : List Char) :
    (∀ text : String, (stringLiteral : Lexer β).Reads calls
        ('\x22' :: text.toList.flatMap (escape ['\x22', '\\']) ++ ['\x22']) rest
        (.string text)) ∧
      (∀ text : String, rest.head? ≠ some '\x27' → (sqlStringLiteral : Lexer β).Reads calls
        ('\x27' :: text.toList.flatMap double ++ ['\x27']) rest (.string text)) ∧
      (∀ c : Char, (charLiteral : Lexer β).Reads calls
        ('\x27' :: escape ['\x27', '\\'] c ++ ['\x27']) rest (.char c)) ∧
      ∀ (opening closing : Char) (body : String), closing ∉ body.toList →
        let text := opening :: body.toList ++ [closing]
        let token := Token.quoted opening.toString body closing.toString
        (quotedString opening closing : Lexer β).Reads calls text rest token ∧
          token.render = String.ofList text := by
  refine ⟨fun text => stringLiteral_decodes calls text rest,
    fun text single => sqlStringLiteral_decodes calls text single,
    fun c => charLiteral_decodes calls c rest, fun opening closing body without =>
      ⟨quotedString_decodes calls opening without rest, ?_⟩⟩
  rw [← String.toList_inj]
  simp [Token.render, Char.toString]

theorem literals_decode_before_semicolon :
    let calls := Rules.calls ([] : Rules Nat) 0
    let sql := Env.ofText "\x27a\x27\x27b\x27;".toList "text" (PositionMap.ofSource [])
    let quoted := Env.ofText "((a);".toList "text" (PositionMap.ofSource [])
    (∃ t, sqlStringLiteral.eval calls sql 1 (sql.stateAt .start) =
        ⟨.ok ⟨0, 6, .string "a\x27b"⟩, t⟩ ∧ t.cursor = ⟨6, 1⟩) ∧
      ∃ t, (quotedString '(' ')').eval calls quoted 1 (quoted.stateAt .start) =
        ⟨.ok ⟨0, 4, .quoted "(" "(a" ")"⟩, t⟩ ∧ t.cursor = ⟨4, 1⟩ := by
  intro calls sql quoted
  obtain ⟨-, sqlDecodes, -, quotedDecodes⟩ := literals_decode calls [';']
  refine ⟨?_, ?_⟩
  · exact sqlDecodes "a\x27b" (by simp) _ _ _ 1 (sql.stateAt .start) (by decide +kernel)
  · exact (quotedDecodes '(' ')' "(a" (by simp)).1 _ _ _ 1 (quoted.stateAt .start)
      (by decide +kernel)

end Lexer

end Descent
