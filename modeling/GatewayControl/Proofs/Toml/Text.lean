import GatewayControl.Proofs.Parsers
import GatewayControl.Toml.Text

/-!
Texts are read as they were written, in whichever form that was. The quoted forms can hold every
text, since what cannot stand for itself is escaped; the literal forms hold the texts that they are
chosen for.
-/

namespace GatewayControl.Toml

open GatewayControl.Parser

/-! Escapes. -/

theorem digitValue_upperHexDigit : ∀ digit < 16, Text.digitValue (upperHexDigit digit) = some digit := by
  decide

theorem isDigitOf_upperHexDigit {digit : Nat} (small : digit < 16) :
    Text.isDigitOf 16 (upperHexDigit digit) = true := by
  simp [Text.isDigitOf, digitValue_upperHexDigit digit small, small]

theorem codePoint_upperHexDigits {char : Char} (small : char.toNat < 256) (rest : List Char) :
    codePoint 4 ('0' :: '0' :: upperHexDigit (char.toNat / 16) :: upperHexDigit (char.toNat % 16) ::
      rest) = some (char, rest) := by
  have high : char.toNat / 16 < 16 := by omega
  have low : char.toNat % 16 < 16 := by omega
  have zero : Text.isDigitOf 16 '0' = true := by decide
  have value : Text.digitsValue 16
      ['0', '0', upperHexDigit (char.toNat / 16), upperHexDigit (char.toNat % 16)] = char.toNat := by
    have zeroDigit : Text.digitValue '0' = some 0 := by decide
    simp only [Text.digitsValue, List.foldl_cons, List.foldl_nil, zeroDigit,
      digitValue_upperHexDigit _ high, digitValue_upperHexDigit _ low, Option.getD_some]
    omega
  have valid : char.toNat.isValidChar := char.valid
  simp [codePoint, hexDigits, satisfy_cons, zero, isDigitOf_upperHexDigit high,
    isDigitOf_upperHexDigit low, value, valid]

def isEscaped (char : Char) : Bool := char = '"' || isControl char || char = '\\'

theorem escape_escapeOf {char : Char} (special : isEscaped char = true) (rest : List Char) :
    escape (escapeOf char ++ rest) = some (char, rest) := by
  rw [escapeOf]
  split
  · rename_i same
    simp [escape, literal, stripStart, same]
  · split
    · rename_i same
      simp [escape, literal, stripStart, same]
    · split
      · rename_i same
        simp [escape, literal, stripStart, same]
      · split
        · rename_i same
          simp [escape, literal, stripStart, same]
        · split
          · rename_i same
            simp [escape, literal, stripStart, same]
          · split
            · rename_i same
              simp only [Bool.or_eq_true, decide_eq_true_eq] at same
              rcases same with same | same
              · simp [escape, literal, stripStart, same]
              · simp [escape, literal, stripStart, same]
            · rename_i other
              have small : char.toNat < 256 := by
                simp only [isEscaped, isControl, Bool.or_eq_true, decide_eq_true_eq] at special other
                rcases special with (quote | control) | backslash
                · exact absurd (.inl quote) other
                · omega
                · exact absurd (.inr backslash) other
              simp [escape, literal, stripStart, codePoint_upperHexDigits small rest]

theorem escapeOf_eq_cons (char : Char) :
    ∃ mark tail, escapeOf char = '\\' :: mark :: tail ∧ isSpace mark = false ∧ mark ≠ '\n' ∧
      mark ≠ '\r' := by
  rw [escapeOf]
  by_cases quote : char = '"' ∨ char = '\\'
  · rcases quote with same | same
    · subst same
      exact ⟨'"', [], by decide⟩
    · subst same
      exact ⟨'\\', [], by decide⟩
  · simp only [Bool.or_eq_true, decide_eq_true_eq, quote, if_false]
    repeat' split
    all_goals exact ⟨_, _, rfl, by decide⟩

theorem plainChar_cons {char : Char} (plain : isEscaped char = false) (rest : List Char) :
    plainChar (char :: rest) = some (char, rest) := by
  simp only [isEscaped, Bool.or_eq_false_iff, decide_eq_false_iff_not] at plain
  simp [plainChar, satisfy_cons, isLiteralChar, plain]

def basicPart (char : Char) : List Char := if isEscaped char then escapeOf char else [char]

theorem escaped_false (quotes : Nat) (text : List Char) :
    escaped false quotes text = text.flatMap basicPart := by
  induction text generalizing quotes with
  | nil => rfl
  | cons char text ih =>
      rw [escaped, List.flatMap_cons, basicPart]
      by_cases quote : char = '"'
      · simp [isEscaped, quote, ih]
      · by_cases special : isControl char = true ∨ char = '\\'
        · simp [isEscaped, quote, special, ih]
        · simp [isEscaped, quote, special, ih]

theorem read_basicPart (char : Char) (rest : List Char) :
    (plainChar <|> escape) (basicPart char ++ rest) = some (char, rest) := by
  rw [basicPart, run_orElse]
  split
  · rename_i special
    obtain ⟨mark, tail, spelled, -⟩ := escapeOf_eq_cons char
    have unquoted : plainChar (escapeOf char ++ rest) = none := by
      simp [spelled, plainChar, satisfy_cons]
    rw [unquoted, escape_escapeOf special, Option.none_or]
  · rename_i plain
    rw [List.singleton_append, plainChar_cons (by simpa using plain), Option.some_or]

theorem basicPart_ne_nil (char : Char) : basicPart char ≠ [] := by
  rw [basicPart]
  split
  · obtain ⟨mark, tail, spelled, -⟩ := escapeOf_eq_cons char
    simp [spelled]
  · simp

theorem basicText_render (text rest : List Char) :
    basicText (TextForm.basic.render text ++ rest) = some (text, rest) := by
  have stop : (plainChar <|> escape) ('"' :: rest) = none := by
    simp [plainChar, satisfy_cons, escape, literal, stripStart]
  have inside := (Reads.of_flatMap (fun char (_ : char ∈ text) => read_basicPart char)
    (fun char _ => basicPart_ne_nil char) stop).many_eq
  simp only [List.map_id'] at inside
  rw [TextForm.render, TextForm.body, escaped_false]
  simp [TextForm.delimiter, TextForm.isLong, basicText, literal, stripStart, inside]

/-! Literal texts. -/

theorem isLiteralChar_of_needsEscapes {text : List Char} (plain : needsEscapes text = false)
    {char : Char} (member : char ∈ text) : isLiteralChar char = true ∨ char = '\n' := by
  have own := List.any_eq_false.1 plain char member
  by_cases lineEnd : char = '\n'
  · exact .inr lineEnd
  · simp only [Bool.and_eq_true, bne_iff_ne, not_and] at own
    rw [isLiteralChar]
    by_cases control : isControl char = true
    · by_cases tab : char = '\t'
      · simp [tab]
      · exact absurd lineEnd (own ⟨control, tab⟩)
    · simp [control]

theorem literalText_render {text : List Char} (holds : TextForm.literal.holds text = true)
    (rest : List Char) : literalText (TextForm.literal.render text ++ rest) = some (text, rest) := by
  simp only [TextForm.holds, Bool.and_eq_true, Bool.not_eq_true', List.contains_eq_mem,
    decide_eq_false_iff_not] at holds
  obtain ⟨⟨plain, unquoted⟩, oneLine⟩ := holds
  have all : ∀ char ∈ text, (isLiteralChar char && char != '\'') = true := by
    intro char member
    have other : char ≠ '\'' := fun same => unquoted (same ▸ member)
    rcases isLiteralChar_of_needsEscapes plain member with literalChar | lineEnd
    · simp [literalChar, other]
    · exact absurd (lineEnd ▸ member) oneLine
  have inside : takeWhile (fun char => isLiteralChar char && char != '\'') (text ++ '\'' :: rest) =
      some (text, '\'' :: rest) := takeWhile_append all (by simp)
  simp [TextForm.render, TextForm.body, TextForm.delimiter, TextForm.isLong, literalText, literal,
    stripStart, inside]

/-! Texts over several lines. Quotes in a row are read together, so a text is read in parts: a
character, or one or two quotes that another character follows. What quotes are left at its end are
read with the closing ones. -/

theorem looseQuotes_two {quote char : Char} (other : char ≠ quote) (rest : List Char) :
    looseQuotes quote (quote :: quote :: char :: rest) = some ([quote, quote], char :: rest) := by
  simp [looseQuotes, satisfy_cons, absent, other]

theorem looseQuotes_one {quote char : Char} (other : char ≠ quote) (rest : List Char) :
    looseQuotes quote (quote :: char :: rest) = some ([quote], char :: rest) := by
  simp [looseQuotes, satisfy_cons, absent, other]

theorem looseQuotes_three (quote : Char) (rest : List Char) :
    looseQuotes quote (quote :: quote :: quote :: rest) = none := by
  simp [looseQuotes, satisfy_cons, absent]

theorem closing_quotes {quote : Char} {rest : List Char} (ends : rest.head? ≠ some quote) :
    closing quote (quote :: quote :: quote :: rest) = some ([], rest) ∧
      closing quote (quote :: quote :: quote :: quote :: rest) = some ([quote], rest) ∧
      closing quote (quote :: quote :: quote :: quote :: quote :: rest) =
        some ([quote, quote], rest) := by
  cases rest with
  | nil => simp [closing, literal, stripStart]
  | cons char rest =>
      have other : quote ≠ char := by simpa [eq_comm] using ends
      simp [closing, literal, stripStart, other]

/-- A text over several lines: quotes up to the second in a row stand for themselves. -/
def spelled (quote : Char) (write : Char → List Char) : Nat → List Char → List Char
  | _, [] => []
  | quotes, char :: chars =>
    if char = quote then
      if quotes < 2 then char :: spelled quote write (quotes + 1) chars
      else write char ++ spelled quote write 0 chars
    else write char ++ spelled quote write 0 chars

def ReadsChar (item : Parser (List Char)) (quote : Char) (write : Char → List Char) (char : Char) :
    Prop :=
  (∃ head tail, write char = head :: tail ∧ head ≠ quote) ∧
    ∀ input, item (write char ++ input) = some ([char], input)

theorem reads_pending {item : Parser (List Char)} {quote head : Char} {input middle : List Char}
    {parts : List (List Char)} {pending : Nat} (few : pending ≤ 2) (other : head ≠ quote)
    (loose : ∀ input, item (quote :: input) = looseQuotes quote (quote :: input))
    (reads : Reads item (head :: input) parts middle) :
    ∃ before, Reads item (List.replicate pending quote ++ head :: input) (before ++ parts) middle ∧
      before.flatten = List.replicate pending quote := by
  match pending, few with
  | 0, _ => exact ⟨[], reads, rfl⟩
  | 1, _ =>
      refine ⟨[[quote]], .more ?_ ?_ reads, rfl⟩
      · exact (loose _).trans (looseQuotes_one other input)
      · simp
  | 2, _ =>
      refine ⟨[[quote, quote]], .more ?_ ?_ reads, rfl⟩
      · exact (loose _).trans (looseQuotes_two other input)
      · simp [List.replicate]

theorem spelled_cons {quote char : Char} {write : Char → List Char} {pending : Nat} {chars : List Char}
    (written : ¬(char = quote ∧ pending < 2)) :
    spelled quote write pending (char :: chars) = write char ++ spelled quote write 0 chars := by
  simp only [not_and] at written
  by_cases same : char = quote <;> simp [spelled, same, written]

theorem readsChar_of_written {item : Parser (List Char)} {quote char : Char}
    {write : Char → List Char} {pending : Nat} {chars : List Char} (few : pending ≤ 2)
    (written : ¬(char = quote ∧ pending < 2)) (own : char ≠ quote → ReadsChar item quote write char)
    (third : hasRun quote 3 pending (char :: chars) = false ∨ ReadsChar item quote write quote) :
    ReadsChar item quote write char := by
  by_cases same : char = quote
  · obtain rfl := same
    have full : pending = 2 := by
      have enough : ¬pending < 2 := fun less => written ⟨rfl, less⟩
      omega
    rcases third with short | readable
    · cases chars <;> simp [hasRun, full] at short
    · exact readable
  · exact own same

/-- The parts of a text over several lines, and the quotes that are left for its closing. The quotes
in a row that have been passed are still to be read. -/
theorem reads_spelled {item : Parser (List Char)} {quote : Char} {write : Char → List Char}
    {rest : List Char} (ends : rest.head? ≠ some quote)
    (loose : ∀ input, item (quote :: input) = looseQuotes quote (quote :: input)) {text : List Char}
    (each : ∀ char ∈ text, char ≠ quote → ReadsChar item quote write char) {pending : Nat}
    (few : pending ≤ 2)
    (third : hasRun quote 3 pending text = false ∨ ReadsChar item quote write quote) :
    ∃ parts tail middle,
      Reads item (List.replicate pending quote ++ (spelled quote write pending text ++
        quote :: quote :: quote :: rest)) parts middle ∧
      closing quote middle = some (tail, rest) ∧
      parts.flatten ++ tail = List.replicate pending quote ++ text := by
  have stop : ∀ input, item (quote :: quote :: quote :: input) = none := fun input => by
    rw [loose, looseQuotes_three]
  induction text generalizing pending with
  | nil =>
      obtain ⟨noQuote, one, two⟩ := closing_quotes ends
      match pending, few with
      | 0, _ => exact ⟨[], [], _, .stop (stop _), noQuote, rfl⟩
      | 1, _ => exact ⟨[], [quote], _, .stop (stop _), one, rfl⟩
      | 2, _ => exact ⟨[], [quote, quote], _, .stop (stop _), two, rfl⟩
  | cons char chars ih =>
      have later := fun other member => each other (List.mem_cons_of_mem _ member)
      by_cases passed : char = quote ∧ pending < 2
      · obtain ⟨rfl, more⟩ := passed
        have third' : hasRun char 3 (pending + 1) chars = false ∨ ReadsChar item char write char := by
          simpa [hasRun, Nat.not_le.2 (show pending < 3 by omega)] using third
        obtain ⟨parts, tail, middle, reads, closes, whole⟩ := ih later (by omega) third'
        refine ⟨parts, tail, middle, ?_, closes, ?_⟩
        · simpa [spelled, more, List.replicate_succ'] using reads
        · simpa [List.replicate_succ'] using whole
      · have readable := readsChar_of_written few passed (each char List.mem_cons_self) third
        have third' : hasRun quote 3 0 chars = false ∨ ReadsChar item quote write quote := by
          by_cases same : char = quote
          · exact .inr (same ▸ readable)
          · simp only [hasRun, same, if_false, Bool.or_eq_false_iff] at third
            exact third.imp_left And.right
        obtain ⟨parts, tail, middle, reads, closes, whole⟩ := ih later (Nat.zero_le 2) third'
        obtain ⟨⟨head, others, start, other⟩, read⟩ := readable
        have first : Reads item (head :: (others ++ (spelled quote write 0 chars ++
            quote :: quote :: quote :: rest))) ([char] :: parts) middle := by
          refine .more ?_ ?_ reads
          · have own := read (spelled quote write 0 chars ++ quote :: quote :: quote :: rest)
            rwa [start] at own
          · simp only [List.length_cons, List.length_append, List.length_replicate]
            omega
        obtain ⟨before, all, flat⟩ := reads_pending few other loose first
        refine ⟨before ++ [char] :: parts, tail, middle, ?_, closes, ?_⟩
        · simpa [spelled_cons passed, start] using all
        · have joined : parts.flatten ++ tail = chars := whole
          simp [flat, joined]

theorem newline_cons {char : Char} (other : char ≠ '\n' ∧ char ≠ '\r') (input : List Char) :
    newline (char :: input) = none := by
  simp [newline, literal, stripStart, Ne.symm other.1, Ne.symm other.2]

theorem newline_spelled {quote : Char} {write : Char → List Char} {text : List Char}
    (plain : quote ≠ '\n' ∧ quote ≠ '\r')
    (each : ∀ char ∈ text, ∃ head tail, write char = head :: tail ∧ head ≠ '\n' ∧ head ≠ '\r')
    (input : List Char) : newline (spelled quote write 0 text ++ quote :: input) = none := by
  cases text with
  | nil => exact newline_cons plain input
  | cons char chars =>
      by_cases same : char = quote
      · simp only [spelled, same, if_true, Nat.zero_lt_two, List.cons_append]
        exact newline_cons plain _
      · obtain ⟨head, tail, written, other⟩ := each char List.mem_cons_self
        simp only [spelled, same, if_false, written, List.cons_append]
        exact newline_cons other _

def longBasicChar (char : Char) : List Char :=
  if isEscaped char && char != '\n' then escapeOf char else [char]

def longBasicPart : Parser (List Char) :=
  (do return [← plainChar]) <|>
  (do continuation; return []) <|>
  (do return [← escape]) <|>
  (do newline; return ['\n']) <|>
  looseQuotes '"'

theorem escaped_true (quotes : Nat) (text : List Char) :
    escaped true quotes text = spelled '"' longBasicChar quotes text := by
  induction text generalizing quotes with
  | nil => rfl
  | cons char text ih =>
      rw [escaped, spelled, longBasicChar]
      by_cases quote : char = '"'
      · simp [isEscaped, quote, ih]
      · by_cases lineEnd : char = '\n'
        · simp [lineEnd, ih]
        · by_cases special : isControl char = true ∨ char = '\\'
          · simp [isEscaped, quote, special, lineEnd, ih]
          · simp [isEscaped, quote, special, lineEnd, ih]

theorem continuation_escapeOf (char : Char) (input : List Char) :
    continuation (escapeOf char ++ input) = none := by
  obtain ⟨mark, tail, start, visible, notLine, notReturn⟩ := escapeOf_eq_cons char
  have noNewline : newline (mark :: (tail ++ input)) = none := newline_cons ⟨notLine, notReturn⟩ _
  simp [start, continuation, literal, stripStart, spaces, takeWhile, visible, noNewline]

theorem readsChar_longBasic (char : Char) : ReadsChar longBasicPart '"' longBasicChar char := by
  rw [ReadsChar, longBasicChar]
  by_cases special : (isEscaped char && char != '\n') = true
  · simp only [special, if_true]
    obtain ⟨mark, tail, start, -⟩ := escapeOf_eq_cons char
    have own : isEscaped char = true := (Bool.and_eq_true_iff.1 special).1
    refine ⟨⟨'\\', mark :: tail, start, by decide⟩, fun input => ?_⟩
    have unquoted : plainChar (escapeOf char ++ input) = none := by
      simp [start, plainChar, satisfy_cons]
    simp [longBasicPart, unquoted, continuation_escapeOf, escape_escapeOf own]
  · simp only [special, Bool.false_eq_true, if_false]
    by_cases lineEnd : char = '\n'
    · subst lineEnd
      refine ⟨⟨'\n', [], rfl, by decide⟩, fun input => ?_⟩
      have control : isLiteralChar '\n' = false := by decide
      simp [longBasicPart, plainChar, satisfy_cons, control, continuation, literal, stripStart,
        escape, newline]
    · have plain : isEscaped char = false := by simpa [lineEnd] using special
      refine ⟨⟨char, [], rfl, fun quote => ?_⟩, fun input => ?_⟩
      · simp [isEscaped, quote] at plain
      · simp [longBasicPart, plainChar_cons plain]

theorem longBasicPart_quote (input : List Char) :
    longBasicPart ('"' :: input) = looseQuotes '"' ('"' :: input) := by
  simp [longBasicPart, plainChar, satisfy_cons, continuation, literal, stripStart, escape, newline]

def longText (quote : Char) (item : Parser (List Char)) : Parser (List Char) := do
  literal (String.ofList [quote, quote, quote])
  let _ ← option newline
  let parts ← many item
  return parts.flatten ++ (← closing quote)

/-- A line end at the beginning is passed over, so one stands there whenever the text has one. -/
theorem option_newline {quote : Char} {write : Char → List Char} {text : List Char}
    (plain : quote ≠ '\n' ∧ quote ≠ '\r')
    (marks : ∀ char ∈ text, char ≠ '\n' →
      ∃ head tail, write char = head :: tail ∧ head ≠ '\n' ∧ head ≠ '\r') (input : List Char) :
    ∃ passed, option newline ((if text.contains '\n' then ['\n'] else []) ++
      (spelled quote write 0 text ++ quote :: input)) =
        some (passed, spelled quote write 0 text ++ quote :: input) := by
  by_cases several : '\n' ∈ text
  · exact ⟨some (), by simp [several, newline, literal, stripStart]⟩
  · refine ⟨none, ?_⟩
    have noNewline : newline (spelled quote write 0 text ++ quote :: input) = none := by
      refine newline_spelled plain (fun char member => marks char member ?_) input
      intro same
      exact several (same ▸ member)
    simp [several, noNewline]

theorem longText_spelled {item : Parser (List Char)} {quote : Char} {write : Char → List Char}
    {text rest : List Char} (ends : rest.head? ≠ some quote) (plain : quote ≠ '\n' ∧ quote ≠ '\r')
    (loose : ∀ input, item (quote :: input) = looseQuotes quote (quote :: input))
    (each : ∀ char ∈ text, char ≠ quote → ReadsChar item quote write char)
    (marks : ∀ char ∈ text, char ≠ '\n' →
      ∃ head tail, write char = head :: tail ∧ head ≠ '\n' ∧ head ≠ '\r')
    (third : hasRun quote 3 0 text = false ∨ ReadsChar item quote write quote) :
    longText quote item ([quote, quote, quote] ++ (if text.contains '\n' then ['\n'] else []) ++
      spelled quote write 0 text ++ [quote, quote, quote] ++ rest) = some (text, rest) := by
  obtain ⟨parts, tail, middle, reads, closes, whole⟩ :=
    reads_spelled ends loose each (Nat.zero_le 2) third
  obtain ⟨passed, start⟩ := option_newline plain marks (quote :: quote :: rest)
  have inside := reads.many_eq
  simp only [List.replicate_zero, List.nil_append] at inside whole
  have opening := literal_append (String.ofList [quote, quote, quote])
    ((if text.contains '\n' then ['\n'] else []) ++
      (spelled quote write 0 text ++ quote :: quote :: quote :: rest))
  simp only [String.toList_ofList] at opening
  simp only [longText, run_bind, List.append_assoc, List.cons_append, List.nil_append] at opening ⊢
  rw [opening]
  simp only [Option.bind_some, start, inside, closes, run_pure, whole]

theorem longBasicText_render {rest : List Char} (ends : rest.head? ≠ some '"') (text : List Char) :
    longBasicText (TextForm.longBasic.render text ++ rest) = some (text, rest) := by
  have marks : ∀ char ∈ text, char ≠ '\n' →
      ∃ head tail, longBasicChar char = head :: tail ∧ head ≠ '\n' ∧ head ≠ '\r' := by
    intro char _ other
    rw [longBasicChar]
    split
    · obtain ⟨mark, tail, start, -⟩ := escapeOf_eq_cons char
      exact ⟨'\\', mark :: tail, start, by decide⟩
    · rename_i plain
      refine ⟨char, [], rfl, other, fun same => ?_⟩
      subst same
      exact plain (by decide)
  have reads := longText_spelled ends (by decide) longBasicPart_quote
    (fun char (_ : char ∈ text) _ => readsChar_longBasic char) marks
    (.inr (readsChar_longBasic '"'))
  have same : longBasicText = longText '"' longBasicPart := rfl
  rw [same, ← reads]
  simp [TextForm.render, TextForm.delimiter, TextForm.isLong, TextForm.body, escaped_true]

def longLiteralPart : Parser (List Char) :=
  (do return [← satisfy fun char => isLiteralChar char && char != '\'']) <|>
  (do newline; return ['\n']) <|>
  looseQuotes '\''

theorem spelled_self (quote : Char) (quotes : Nat) (text : List Char) :
    spelled quote (fun char => [char]) quotes text = text := by
  induction text generalizing quotes with
  | nil => rfl
  | cons char text ih =>
      rw [spelled, ih, ih]
      simp

theorem longLiteralText_render {text : List Char} (holds : TextForm.longLiteral.holds text = true)
    {rest : List Char} (ends : rest.head? ≠ some '\'') :
    longLiteralText (TextForm.longLiteral.render text ++ rest) = some (text, rest) := by
  simp only [TextForm.holds, Bool.and_eq_true, Bool.not_eq_true'] at holds
  obtain ⟨plain, short⟩ := holds
  have loose : ∀ input, longLiteralPart ('\'' :: input) = looseQuotes '\'' ('\'' :: input) := by
    intro input
    simp [longLiteralPart, satisfy_cons, newline, literal, stripStart]
  have each : ∀ char ∈ text, char ≠ '\'' →
      ReadsChar longLiteralPart '\'' (fun char => [char]) char := by
    intro char member other
    refine ⟨⟨char, [], rfl, other⟩, fun input => ?_⟩
    rcases isLiteralChar_of_needsEscapes plain member with own | lineEnd
    · simp [longLiteralPart, satisfy_cons, own, other]
    · subst lineEnd
      have control : isLiteralChar '\n' = false := by decide
      simp [longLiteralPart, satisfy_cons, control, newline, literal, stripStart]
  have marks : ∀ char ∈ text, char ≠ '\n' →
      ∃ head tail, [char] = head :: tail ∧ head ≠ '\n' ∧ head ≠ '\r' := by
    intro char member other
    refine ⟨char, [], rfl, other, fun isReturn => ?_⟩
    rcases isLiteralChar_of_needsEscapes plain member with own | lineEnd
    · rw [isReturn] at own
      exact absurd own (by decide)
    · exact other lineEnd
  have reads := longText_spelled ends (by decide) loose each marks (.inl short)
  have same : longLiteralText = longText '\'' longLiteralPart := rfl
  rw [same, ← reads, spelled_self]
  simp [TextForm.render, TextForm.delimiter, TextForm.isLong, TextForm.body]

/-! Texts in the form that is chosen for them, and keys. -/

theorem holds_choose (text : List Char) :
    (TextForm.choose text = .literal → TextForm.literal.holds text = true) ∧
      (TextForm.choose text = .longLiteral → TextForm.longLiteral.holds text = true) := by
  rw [TextForm.choose]
  refine ⟨fun chosen => ?_, fun chosen => ?_⟩
  all_goals
    repeat' split at chosen
    all_goals first
      | assumption
      | cases chosen

theorem literal_quotes {quote : Char} {body rest : List Char} (inside : body.head? ≠ some quote)
    (ends : rest.head? ≠ some quote) :
    literal (String.ofList [quote, quote, quote]) (quote :: (body ++ quote :: rest)) = none := by
  cases body with
  | nil =>
      cases rest with
      | nil => simp [literal, stripStart]
      | cons char rest =>
          have other : quote ≠ char := by simpa [eq_comm] using ends
          simp [literal, stripStart, other]
  | cons char body =>
      have other : quote ≠ char := by simpa [eq_comm] using inside
      simp [literal, stripStart, other]

theorem head?_escaped_false (text : List Char) : (escaped false 0 text).head? ≠ some '"' := by
  rw [escaped_false]
  cases text with
  | nil => simp
  | cons char text =>
      rw [List.flatMap_cons, basicPart]
      split
      · obtain ⟨mark, tail, start, -⟩ := escapeOf_eq_cons char
        simp [start]
      · rename_i plain
        have other : char ≠ '"' := fun quote => plain (by simp [isEscaped, quote])
        simp [other]

theorem text_renderText (value : String) {rest : List Char} (quoted : rest.head? ≠ some '"')
    (notQuoted : rest.head? ≠ some '\'') :
    text (renderText value ++ rest) = some (value, rest) := by
  have chosen := holds_choose value.toList
  rw [renderText]
  cases form : TextForm.choose value.toList with
  | basic =>
      have short : longBasicText (TextForm.basic.render value.toList ++ rest) = none := by
        have other := literal_quotes (head?_escaped_false value.toList) quoted
        simp [longBasicText, TextForm.render, TextForm.delimiter, TextForm.isLong, TextForm.body, other]
      simp [text, short, basicText_render]
  | literal =>
      have holds := chosen.1 form
      have short : longLiteralText (TextForm.literal.render value.toList ++ rest) = none := by
        have inside : value.toList.head? ≠ some '\'' := by
          intro same
          simp [TextForm.holds, List.mem_of_mem_head? same] at holds
        have other := literal_quotes inside notQuoted
        simp [longLiteralText, TextForm.render, TextForm.delimiter, TextForm.isLong, TextForm.body,
          other]
      have unquoted : longBasicText (TextForm.literal.render value.toList ++ rest) = none ∧
          basicText (TextForm.literal.render value.toList ++ rest) = none := by
        simp [longBasicText, basicText, TextForm.render, TextForm.delimiter, literal, stripStart]
      simp [text, unquoted, short, literalText_render holds]
  | longBasic => simp [text, longBasicText_render quoted]
  | longLiteral =>
      have unquoted : longBasicText (TextForm.longLiteral.render value.toList ++ rest) = none ∧
          basicText (TextForm.longLiteral.render value.toList ++ rest) = none := by
        simp [longBasicText, basicText, TextForm.render, TextForm.delimiter, literal, stripStart]
      simp [text, unquoted, longLiteralText_render (chosen.2 form) notQuoted]

def EndsKey (rest : List Char) : Prop := ∀ char ∈ rest.head?, isBareKeyChar char = false

theorem simpleKey_renderKey (key : String) {rest : List Char} (ends : EndsKey rest) :
    simpleKey (renderKey key ++ rest) = some (key, rest) := by
  rw [renderKey]
  split
  · rename_i bare
    simp only [Bool.and_eq_true, Bool.not_eq_true', List.isEmpty_eq_false_iff] at bare
    obtain ⟨nonempty, plain⟩ := bare
    obtain ⟨char, chars, start⟩ := List.exists_cons_of_ne_nil nonempty
    have first : isBareKeyChar char = true := List.all_eq_true.1 plain char (start ▸ List.mem_cons_self)
    have unquoted : '"' ≠ char ∧ '\'' ≠ char := by
      refine ⟨fun same => ?_, fun same => ?_⟩
      · exact absurd (same ▸ first) (by decide)
      · exact absurd (same ▸ first) (by decide)
    have others : ∀ other ∈ chars, isBareKeyChar other = true := fun other member =>
      List.all_eq_true.1 plain other (start ▸ List.mem_cons_of_mem _ member)
    have inside := takeWhile_append others ends
    have other : basicText (key.toList ++ rest) = none ∧ literalText (key.toList ++ rest) = none := by
      simp [start, basicText, literalText, literal, stripStart, unquoted]
    have taken : bareKey (key.toList ++ rest) = some (key.toList, rest) := by
      simp [start, bareKey, takeWhile1, satisfy_cons, first, inside]
    simp [simpleKey, other, taken]
  · split
    · simp [simpleKey, basicText_render]
    · split
      · rename_i holds
        have unquoted : basicText (TextForm.literal.render key.toList ++ rest) = none := by
          simp [basicText, TextForm.render, TextForm.delimiter, literal, stripStart]
        simp [simpleKey, unquoted, literalText_render holds]
      · simp [simpleKey, basicText_render]

end GatewayControl.Toml
