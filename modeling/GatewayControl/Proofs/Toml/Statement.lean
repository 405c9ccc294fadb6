import GatewayControl.Proofs.Toml.Text
import GatewayControl.Toml.Document

/-!
Statements are read as they were written: headers with keys of any names, and keys whose values
stand on one line.
-/

namespace GatewayControl.Toml

open GatewayControl.Parser

/-! Keys. -/

theorem spaces_of_head {input : List Char} (visible : ∀ char ∈ input.head?, isSpace char = false) :
    spaces input = some ((), input) := by
  have noSpaces : takeWhile isSpace ([] ++ input) = some ([], input) := takeWhile_append (by simp) visible
  rw [List.nil_append] at noSpaces
  simp [spaces, noSpaces]

theorem renderKey_eq_cons (key : String) :
    ∃ char chars, renderKey key = char :: chars ∧
      (isBareKeyChar char = true ∨ char = '"' ∨ char = '\'') := by
  rw [renderKey]
  split
  · rename_i bare
    simp only [Bool.and_eq_true, Bool.not_eq_true', List.isEmpty_eq_false_iff] at bare
    obtain ⟨char, chars, start⟩ := List.exists_cons_of_ne_nil bare.1
    exact ⟨char, chars, start, .inl (List.all_eq_true.1 bare.2 char (start ▸ List.mem_cons_self))⟩
  · split
    · exact ⟨'"', _, rfl, by simp⟩
    · split
      · exact ⟨'\'', _, rfl, by simp⟩
      · exact ⟨'"', _, rfl, by simp⟩

theorem ne_of_keyStart {char other : Char}
    (start : isBareKeyChar char = true ∨ char = '"' ∨ char = '\'')
    (different : isBareKeyChar other = false ∧ other ≠ '"' ∧ other ≠ '\'') : char ≠ other := by
  rintro rfl
  rcases start with bare | quote | quote
  · exact absurd (different.1.symm.trans bare) (by decide)
  · exact different.2.1 quote
  · exact different.2.2 quote

theorem spaces_renderKey (key : String) (rest : List Char) :
    spaces (renderKey key ++ rest) = some ((), renderKey key ++ rest) := by
  obtain ⟨char, chars, written, start⟩ := renderKey_eq_cons key
  refine spaces_of_head fun other head => ?_
  simp only [written, List.cons_append, List.head?_cons, Option.mem_some_iff] at head
  subst head
  have blank : char ≠ ' ' := ne_of_keyStart start (by decide)
  have tab : char ≠ '\t' := ne_of_keyStart start (by decide)
  simp [isSpace, blank, tab]

theorem keyPart_renderKey (key : String) {rest : List Char} (ends : EndsKey rest)
    (visible : ∀ char ∈ rest.head?, isSpace char = false) :
    keyPart (renderKey key ++ rest) = some (key, rest) := by
  simp [keyPart, spaces_renderKey, simpleKey_renderKey key ends, spaces_of_head visible]

theorem joinKeys_cons (first : String) (others : List String) :
    joinKeys (first :: others) =
      renderKey first ++ others.flatMap fun key => '.' :: renderKey key := by
  induction others generalizing first with
  | nil => simp [joinKeys, List.intercalate]
  | cons second others ih =>
      have rest := ih second
      simp only [joinKeys, List.map_cons, List.intercalate_cons_cons] at rest ⊢
      rw [rest]
      simp

def furtherParts (others : List String) : List Char := others.flatMap fun key => '.' :: renderKey key

theorem keyPart_further (name : String) (others : List String) (rest : List Char) :
    keyPart (renderKey name ++ (furtherParts others ++ ']' :: rest)) =
      some (name, furtherParts others ++ ']' :: rest) := by
  have marks : isBareKeyChar '.' = false ∧ isBareKeyChar ']' = false := by decide
  refine keyPart_renderKey name ?_ ?_
  · cases others <;> simp [furtherParts, EndsKey, marks]
  · cases others <;> simp [furtherParts, isSpace]

theorem reads_furtherParts (others : List String) (rest : List Char) :
    Reads (do literal "."; keyPart) (furtherParts others ++ ']' :: rest) others (']' :: rest) := by
  induction others with
  | nil => exact .stop (by simp [furtherParts, literal, stripStart])
  | cons next others ih =>
      have written : furtherParts (next :: others) ++ ']' :: rest =
          '.' :: (renderKey next ++ (furtherParts others ++ ']' :: rest)) := by
        simp [furtherParts]
      rw [written]
      have part := keyPart_further next others rest
      refine .more (by simpa [literal, stripStart] using part) ?_ ih
      simp only [List.length_append, List.length_cons]
      omega

theorem key_joinKeys {path : List String} (nonempty : path ≠ []) (short : path.length ≤ nestingLimit)
    (rest : List Char) : key (joinKeys path ++ ']' :: rest) = some (path, ']' :: rest) := by
  cases path with
  | nil => exact absurd rfl nonempty
  | cons first others =>
      have start := keyPart_further first others rest
      have later := (reads_furtherParts others rest).many_eq
      have few : others.length < nestingLimit := short
      simp only [furtherParts] at start later
      simp only [joinKeys_cons, List.append_assoc, key, run_bind, start, Option.bind_some, later,
        run_guard, few, if_true, run_pure]

theorem key_renderKey (name : String) (rest : List Char) :
    key (renderKey name ++ ' ' :: '=' :: rest) = some ([name], '=' :: rest) := by
  have blank : spaces (' ' :: '=' :: rest) = some ((), '=' :: rest) := by
    simp [spaces, takeWhile, isSpace]
  have ends : EndsKey (' ' :: '=' :: rest) := by simp [EndsKey, isBareKeyChar]
  have part : keyPart (renderKey name ++ ' ' :: '=' :: rest) = some (name, '=' :: rest) := by
    simp [keyPart, spaces_renderKey, simpleKey_renderKey name ends, blank]
  have single : Reads (do literal "."; keyPart) ('=' :: rest) [] ('=' :: rest) :=
    .stop (by simp [literal, stripStart])
  have few : ([] : List String).length < nestingLimit := by decide
  simp only [key, run_bind, part, Option.bind_some, single.many_eq, run_guard, few, if_true, run_pure]

/-! Values. -/

theorem toDigits_eq_cons {number : Nat} (positive : number ≠ 0) :
    ∃ first others, Nat.toDigits 10 number = first :: others ∧ first ≠ '0' := by
  induction number using Nat.strongRecOn with
  | ind number ih =>
      by_cases small : number < 10
      · refine ⟨number.digitChar, [], Nat.toDigits_of_lt_base small, fun zero => ?_⟩
        exact positive (Nat.digitChar_eq_zero.1 zero)
      · have tenth : number / 10 < number := by omega
        obtain ⟨first, others, start, nonzero⟩ := ih (number / 10) tenth (by omega)
        refine ⟨first, others ++ [(number % 10).digitChar], ?_, nonzero⟩
        rw [Nat.toDigits_of_base_le (by decide) (by omega), start]
        rfl

theorem digitValue_of_isDigit {char : Char} (digit : char.isDigit = true) :
    Text.digitValue char = some (char.toNat - '0'.toNat) := by
  simp only [Char.isDigit, Bool.and_eq_true, decide_eq_true_eq] at digit
  have both : '0' ≤ char ∧ char ≤ '9' := digit
  simp [Text.digitValue, both]

theorem digitsValue_toDigits (number : Nat) :
    Text.digitsValue 10 (Nat.toDigits 10 number) = number := by
  have agree : ∀ digits : List Char, (∀ char ∈ digits, char.isDigit = true) → ∀ start : Nat,
      digits.foldl (fun value digit => value * 10 + (Text.digitValue digit).getD 0) start =
        Nat.ofDigitChars 10 digits start := by
    intro digits all
    induction digits with
    | nil => simp
    | cons char digits ih =>
        intro start
        have own := digitValue_of_isDigit (all char List.mem_cons_self)
        rw [List.foldl_cons, ih (fun other member => all other (List.mem_cons_of_mem _ member)),
          Nat.ofDigitChars_cons, own, Nat.mul_comm]
        rfl
  have digits : ∀ char ∈ Nat.toDigits 10 number, char.isDigit = true := fun char member =>
    Nat.isDigit_of_mem_toDigits (by decide) (by decide) member
  rw [Text.digitsValue, agree _ digits, Nat.ofDigitChars_ten_toDigits]

theorem separatedDigit_cons {char : Char} (digit : char.isDigit = true) (rest : List Char) :
    separatedDigit Char.isDigit (char :: rest) = some (char, rest) := by
  have mark : '_' ≠ char := fun same => absurd (same ▸ digit) (by decide)
  simp [separatedDigit, literal, stripStart, mark, satisfy_cons, digit]

theorem decimalDigits_toDigits (number : Nat) (rest : List Char) :
    decimalDigits (Nat.toDigits 10 number ++ '\n' :: rest) =
      some (Nat.toDigits 10 number, '\n' :: rest) := by
  have digits : ∀ char ∈ Nat.toDigits 10 number, char.isDigit = true := fun char member =>
    Nat.isDigit_of_mem_toDigits (by decide) (by decide) member
  by_cases zero : number = 0
  · subst zero
    simp [decimalDigits, satisfy_cons]
  · obtain ⟨first, others, start, nonzero⟩ := toDigits_eq_cons zero
    rw [start] at digits ⊢
    have stop : separatedDigit Char.isDigit ('\n' :: rest) = none := by
      simp [separatedDigit, literal, stripStart, satisfy_cons]
    have each : ∀ char ∈ others, ∀ rest,
        separatedDigit Char.isDigit ([char] ++ rest) = some (id char, rest) := fun char member =>
      separatedDigit_cons (digits char (List.mem_cons_of_mem _ member))
    have later := (Reads.of_flatMap each (fun _ _ => List.cons_ne_nil _ _) stop).many_eq
    have same : (others.flatMap fun char => [char]) = others := by simp
    rw [same, List.map_id] at later
    simp [decimalDigits, satisfy_cons, digits first List.mem_cons_self, nonzero, later]

def DigitLine (input : List Char) : Prop :=
  ∃ digits rest, (∀ char ∈ digits, char.isDigit = true) ∧ input = digits ++ '\n' :: rest

theorem DigitLine.of_satisfy {input rest : List Char} {char : Char} (line : DigitLine input)
    (read : satisfy Char.isDigit input = some (char, rest)) : DigitLine rest := by
  obtain ⟨digits, after, all, rfl⟩ := line
  cases digits with
  | nil => simp [satisfy_cons] at read
  | cons digit digits =>
      simp only [List.cons_append, satisfy_cons, all digit List.mem_cons_self, if_true,
        Option.some.injEq, Prod.mk.injEq] at read
      exact ⟨digits, after, fun other member => all other (List.mem_cons_of_mem _ member), read.2.symm⟩

theorem DigitLine.of_fixedNumber {input rest : List Char} {count low high number : Nat}
    (line : DigitLine input) (read : fixedNumber count low high input = some (number, rest)) :
    DigitLine rest := by
  have parsed : ∃ digits, (List.replicate count ()).mapM (fun _ => satisfy Char.isDigit) input =
      some (digits, rest) := by
    simp only [fixedNumber, run_bind, run_guard, run_pure, Option.bind_eq_some_iff] at read
    obtain ⟨⟨digits, middle⟩, satisfied, ⟨⟨⟩, after⟩, checked, same⟩ := read
    refine ⟨digits, ?_⟩
    split at checked
    · cases checked
      cases same
      exact satisfied
    · cases checked
  clear read
  obtain ⟨digits, read⟩ := parsed
  induction count generalizing input digits with
  | zero =>
      cases read
      exact line
  | succ count ih =>
      simp only [List.replicate_succ, List.mapM_cons, run_bind, run_pure,
        Option.bind_eq_some_iff] at read
      obtain ⟨⟨digit, middle⟩, first, ⟨others, after⟩, later, same⟩ := read
      cases same
      exact ih (line.of_satisfy first) others later

theorem DigitLine.literal_eq {input : List Char} (line : DigitLine input) {word : String}
    (other : ('\n' ∉ word.toList) ∧ word.toList.all Char.isDigit = false) :
    literal word input = none := by
  obtain ⟨digits, rest, all, rfl⟩ := line
  obtain ⟨lineless, other⟩ := other
  have unmatched : stripStart word.toList (digits ++ '\n' :: rest) = none := by
    generalize word.toList = marks at lineless other
    induction marks generalizing digits with
    | nil => simp at other
    | cons char marks ih =>
        obtain ⟨visible, lineless⟩ := List.ne_and_not_mem_of_not_mem_cons lineless
        cases digits with
        | nil => simp [stripStart, Ne.symm visible]
        | cons digit digits =>
            have own := all digit List.mem_cons_self
            simp only [List.cons_append, stripStart, ite_eq_right_iff]
            rintro rfl
            refine ih digits (fun next member => all next (List.mem_cons_of_mem _ member)) lineless ?_
            simpa [own] using other
  simp [literal, unmatched]

theorem DigitLine.moment_eq {input : List Char} (line : DigitLine input) : moment input = none := by
  have undated : date input = none := by
    cases read : fixedNumber 4 0 9999 input with
    | none => simp [date, read]
    | some result =>
        have dash : literal "-" result.2 = none := (line.of_fixedNumber read).literal_eq (by decide)
        simp [date, read, dash]
  have untimed : time input = none := by
    cases read : fixedNumber 2 0 23 input with
    | none => simp [time, read]
    | some result =>
        have colon : literal ":" result.2 = none := (line.of_fixedNumber read).literal_eq (by decide)
        simp [time, read, colon]
  simp [moment, undated, untimed]

theorem DigitLine.text_eq {input : List Char} (line : DigitLine input) : text input = none := by
  have long : literal "\"\"\"" input = none ∧ literal "'''" input = none :=
    ⟨line.literal_eq (by decide), line.literal_eq (by decide)⟩
  have short : literal "\"" input = none ∧ literal "'" input = none :=
    ⟨line.literal_eq (by decide), line.literal_eq (by decide)⟩
  simp [text, longBasicText, basicText, longLiteralText, literalText, long, short]

theorem DigitLine.sign_eq {input : List Char} (line : DigitLine input) :
    sign input = some (false, input) := by
  have minus : literal "-" input = none := line.literal_eq (by decide)
  have plus : literal "+" input = none := line.literal_eq (by decide)
  simp [sign, minus, plus]

theorem value_number (depth : Nat) {number : Nat} (small : number ≤ maxInteger) (rest : List Char) :
    value depth (Nat.toDigits 10 number ++ '\n' :: rest) =
      some (.integer number, '\n' :: rest) := by
  have digits : ∀ char ∈ Nat.toDigits 10 number, char.isDigit = true := fun char member =>
    Nat.isDigit_of_mem_toDigits (by decide) (by decide) member
  have line : DigitLine (Nat.toDigits 10 number ++ '\n' :: rest) := ⟨_, rest, digits, rfl⟩
  have read := decimalDigits_toDigits number rest
  have notFloat : float (Nat.toDigits 10 number ++ '\n' :: rest) = none := by
    have wordless : literal "inf" (Nat.toDigits 10 number ++ '\n' :: rest) = none ∧
        literal "nan" (Nat.toDigits 10 number ++ '\n' :: rest) = none :=
      ⟨line.literal_eq (by decide), line.literal_eq (by decide)⟩
    have pointless : literal "." ('\n' :: rest) = none := by simp [literal, stripStart]
    simp [float, line.sign_eq, read, power, fraction, satisfy_cons, pointless, wordless]
  have readInteger : integer (Nat.toDigits 10 number ++ '\n' :: rest) =
      some (.integer number, '\n' :: rest) := by
    have marked : literal "0x" (Nat.toDigits 10 number ++ '\n' :: rest) = none ∧
        literal "0o" (Nat.toDigits 10 number ++ '\n' :: rest) = none ∧
        literal "0b" (Nat.toDigits 10 number ++ '\n' :: rest) = none :=
      ⟨line.literal_eq (by decide), line.literal_eq (by decide), line.literal_eq (by decide)⟩
    simp [integer, radixInteger, marked, line.sign_eq, read, digitsValue_toDigits, small]
  have notWord : literal "true" (Nat.toDigits 10 number ++ '\n' :: rest) = none ∧
      literal "false" (Nat.toDigits 10 number ++ '\n' :: rest) = none :=
    ⟨line.literal_eq (by decide), line.literal_eq (by decide)⟩
  rw [value.eq_def]
  simp [line.text_eq, notWord, line.moment_eq, notFloat, readInteger]

theorem fixedNumber_cons {char : Char} (digitless : char.isDigit = false) (count low high : Nat)
    (rest : List Char) : fixedNumber (count + 1) low high (char :: rest) = none := by
  have first : satisfy Char.isDigit (char :: rest) = none := by
    rw [satisfy_cons, digitless]
    rfl
  have digits : (List.replicate (count + 1) ()).mapM (fun _ => satisfy Char.isDigit) (char :: rest) =
      none := by
    rw [List.replicate_succ, List.mapM_cons, run_bind, first]
    rfl
  rw [fixedNumber, run_bind, digits]
  rfl

theorem scalars_of_bracket {char : Char} (bracket : char = '[' ∨ char = ']') (rest : List Char) :
    text (char :: rest) = none ∧ literal "true" (char :: rest) = none ∧
      literal "false" (char :: rest) = none ∧ moment (char :: rest) = none ∧
      float (char :: rest) = none ∧ integer (char :: rest) = none := by
  have digitless : char.isDigit = false := by
    rcases bracket with rfl | rfl <;> decide
  have other : (['"', '\'', 't', 'f', '-', '+', 'i', 'n', '0'].all fun mark => mark ≠ char) = true := by
    rcases bracket with rfl | rfl <;> decide
  simp only [List.all_cons, List.all_nil, Bool.and_eq_true, decide_eq_true_eq, and_true] at other
  obtain ⟨double, single, t, f, minus, plus, i, n, zero⟩ := other
  have unsigned : sign (char :: rest) = some (false, char :: rest) := by
    simp [sign, literal, stripStart, minus, plus]
  have undecimal : decimalDigits (char :: rest) = none := by
    simp [decimalDigits, satisfy_cons, digitless]
  refine ⟨?_, ?_, ?_, ?_, ?_, ?_⟩
  · simp [text, longBasicText, basicText, longLiteralText, literalText, literal, stripStart, double,
      single]
  · simp [literal, stripStart, t]
  · simp [literal, stripStart, f]
  · simp [moment, date, time, fixedNumber_cons digitless]
  · simp [float, unsigned, undecimal, literal, stripStart, i, n]
  · simp [integer, radixInteger, unsigned, undecimal, literal, stripStart, zero]

theorem value_empty (depth : Nat) (rest : List Char) :
    value (depth + 1) ('[' :: ']' :: rest) = some (.array [], rest) := by
  have opening := scalars_of_bracket (.inl rfl) (']' :: rest)
  have closing := scalars_of_bracket (.inr rfl) rest
  have noBlanks : blanks (']' :: rest) = some ((), ']' :: rest) := by
    have stop : Reads blankPart (']' :: rest) [] (']' :: rest) := by
      refine .stop ?_
      simp [blankPart, satisfy_cons, isSpace, newline, commentText, literal, stripStart]
    simp [blanks, stop.many_eq]
  have noItem : value depth (']' :: rest) = none := by
    rw [value.eq_def]
    cases depth <;> simp [closing, literal, stripStart]
  rw [value.eq_def]
  simp [opening, separated, noBlanks, noItem, literal, stripStart]

/-- The values that stored records have on one line. -/
inductive Value.Plain : Value → Prop
  | text (value : String) : Value.Plain (.text value)
  | number {number : Nat} (small : number ≤ maxInteger) : Value.Plain (.integer number)
  | empty : Value.Plain (.array [])

theorem render_number (number : Nat) :
    (Value.integer number).render = Nat.toDigits 10 number := by
  change (toString number).toList = _
  simp

theorem value_render {one : Value} (plain : one.Plain) (rest : List Char) :
    value nestingLimit (one.render ++ '\n' :: rest) = some (one, '\n' :: rest) := by
  cases plain with
  | text written =>
      have read : text (renderText written ++ '\n' :: rest) = some (written, '\n' :: rest) :=
        text_renderText written (by simp) (by simp)
      rw [value.eq_def]
      simp [Value.render, read]
  | number small =>
      rw [render_number, value_number nestingLimit small]
  | empty =>
      have written : (Value.array []).render = ['[', ']'] := rfl
      rw [written, List.cons_append, List.singleton_append]
      exact value_empty 78 _

/-! Statements. -/

def Statement.Writable : Statement → Prop
  | .table path | .element path => path ≠ [] ∧ path.length ≤ nestingLimit
  | .pair key value => ∃ name, key = [name] ∧ value.Plain

theorem restOfLine_newline (rest : List Char) : restOfLine ('\n' :: rest) = some ((), rest) := by
  have noSpaces : spaces ('\n' :: rest) = some ((), '\n' :: rest) :=
    spaces_of_head (by simp [isSpace])
  simp [restOfLine, noSpaces, commentText, lineEnd, newline, literal, stripStart]

theorem joinKeys_eq_cons {path : List String} (nonempty : path ≠ []) :
    ∃ char chars, joinKeys path = char :: chars ∧
      (isBareKeyChar char = true ∨ char = '"' ∨ char = '\'') := by
  obtain ⟨first, others, rfl⟩ := List.exists_cons_of_ne_nil nonempty
  obtain ⟨char, chars, written, start⟩ := renderKey_eq_cons first
  exact ⟨char, _, by rw [joinKeys_cons, written, List.cons_append], start⟩

theorem Value.Plain.render_eq_cons {one : Value} (plain : one.Plain) :
    ∃ char chars, one.render = char :: chars ∧ isSpace char = false := by
  cases plain with
  | text written =>
      have quoted : ∃ char chars, (renderText written) = char :: chars ∧ isSpace char = false := by
        rw [renderText]
        cases TextForm.choose written.toList
        all_goals exact ⟨_, _, rfl, by decide⟩
      exact quoted
  | number small =>
      rename_i number
      obtain ⟨char, chars, start⟩ : ∃ char chars, Nat.toDigits 10 number = char :: chars :=
        List.exists_cons_of_ne_nil Nat.toDigits_ne_nil
      have digit : char.isDigit = true :=
        Nat.isDigit_of_mem_toDigits (by decide) (by decide) (start ▸ List.mem_cons_self)
      refine ⟨char, chars, ?_, ?_⟩
      · rw [render_number, start]
      · have blank : char ≠ ' ' := fun same => absurd (same ▸ digit) (by decide)
        have tab : char ≠ '\t' := fun same => absurd (same ▸ digit) (by decide)
        simp [isSpace, blank, tab]
  | empty => exact ⟨'[', [']'], rfl, by decide⟩

theorem statement_render {one : Statement} (writable : one.Writable) (rest : List Char) :
    statement (one.render ++ '\n' :: rest) = some (one, rest) := by
  cases one with
  | table path =>
      obtain ⟨nonempty, short⟩ := writable
      obtain ⟨char, chars, written, start⟩ := joinKeys_eq_cons nonempty
      have single : '[' ≠ char := (ne_of_keyStart start (by decide)).symm
      have read := key_joinKeys nonempty short ('\n' :: rest)
      have notElement : literal "[[" ('[' :: (joinKeys path ++ ']' :: '\n' :: rest)) = none := by
        simp [literal, stripStart, written, single]
      have opening : literal "[" ('[' :: (joinKeys path ++ ']' :: '\n' :: rest)) =
          some ((), joinKeys path ++ ']' :: '\n' :: rest) := by
        simp [literal, stripStart]
      have closing : literal "]" (']' :: '\n' :: rest) = some ((), '\n' :: rest) := by
        simp [literal, stripStart]
      simp [Statement.render, statement, notElement, opening, read, closing, restOfLine_newline]
  | element path =>
      obtain ⟨nonempty, short⟩ := writable
      have read := key_joinKeys nonempty short (']' :: '\n' :: rest)
      simp [Statement.render, statement, literal, stripStart, read, restOfLine_newline]
  | pair key value =>
      obtain ⟨name, rfl, plain⟩ := writable
      obtain ⟨char, chars, written, start⟩ := renderKey_eq_cons name
      obtain ⟨mark, marks, shown, visible⟩ := plain.render_eq_cons
      have other : '[' ≠ char := (ne_of_keyStart start (by decide)).symm
      have read := key_renderKey name (' ' :: (value.render ++ '\n' :: rest))
      have noHeader : literal "[[" (renderKey name ++ ' ' :: '=' :: ' ' ::
            (value.render ++ '\n' :: rest)) = none ∧
          literal "[" (renderKey name ++ ' ' :: '=' :: ' ' :: (value.render ++ '\n' :: rest)) =
            none := by
        simp [literal, stripStart, written, other]
      have equals : literal "=" ('=' :: ' ' :: (value.render ++ '\n' :: rest)) =
          some ((), ' ' :: (value.render ++ '\n' :: rest)) := by
        simp [literal, stripStart]
      have blank : spaces (' ' :: (value.render ++ '\n' :: rest)) =
          some ((), value.render ++ '\n' :: rest) := by
        have space : isSpace ' ' = true := by decide
        simp [spaces, takeWhile, shown, visible, space]
      have alone : joinKeys [name] = renderKey name := by simp [joinKeys_cons]
      simp [Statement.render, statement, alone, noHeader, read, equals, blank, value_render plain,
        restOfLine_newline]

theorem Statement.render_eq_cons {one : Statement} (writable : one.Writable) :
    ∃ char chars, one.render = char :: chars ∧
      (isBareKeyChar char = true ∨ char = '"' ∨ char = '\'' ∨ char = '[') := by
  cases one with
  | table path => exact ⟨'[', _, rfl, by simp⟩
  | element path => exact ⟨'[', _, rfl, by simp⟩
  | pair key value =>
      obtain ⟨name, rfl, -⟩ := writable
      obtain ⟨char, chars, written, start⟩ := renderKey_eq_cons name
      have alone : joinKeys [name] = renderKey name := by simp [joinKeys_cons]
      refine ⟨char, chars ++ ([' ', '=', ' '] ++ value.render), ?_, ?_⟩
      · simp [Statement.render, alone, written]
      · rcases start with bare | quote | quote <;> simp [*]

def line : Parser (Option Statement) :=
  (do emptyLine; spaces; return none) <|>
  (do
    let statement ← statement
    spaces
    return some statement)

theorem head_statement {one : Statement} (writable : one.Writable) (rest : List Char) :
    spaces (one.render ++ rest) = some ((), one.render ++ rest) ∧
      emptyLine (one.render ++ rest) = none ∧ literal "\ufeff" (one.render ++ rest) = none := by
  obtain ⟨char, chars, written, start⟩ := Statement.render_eq_cons writable
  have marks : ([' ', '\t', '\n', '\r', '#', '\ufeff'].all fun mark =>
      !(isBareKeyChar mark || mark = '"' || mark = '\'' || mark = '[')) = true := by decide
  have other : ∀ mark ∈ [' ', '\t', '\n', '\r', '#', '\ufeff'], char ≠ mark := by
    rintro mark member rfl
    have different := List.all_eq_true.1 marks char member
    simp only [Bool.not_eq_true', Bool.or_eq_false_iff, decide_eq_false_iff_not] at different
    obtain ⟨⟨⟨bare, double⟩, single⟩, bracket⟩ := different
    rcases start with own | own | own | own
    · exact absurd (bare.symm.trans own) (by decide)
    · exact double own
    · exact single own
    · exact bracket own
  simp only [List.forall_mem_cons, List.not_mem_nil, false_implies, implies_true, and_true] at other
  obtain ⟨space, tab, newLine, carriage, comment, mark⟩ := other
  refine ⟨spaces_of_head ?_, ?_, ?_⟩
  · simp [written, isSpace, space, tab]
  · simp [written, emptyLine, newline, commentText, literal, stripStart, newLine.symm, carriage.symm,
      comment.symm]
  · simp [written, literal, stripStart, mark.symm]

theorem reads_renderStatements {all : List Statement} (writable : ∀ one ∈ all, one.Writable)
    (first : Bool) :
    ∃ lines, Reads line (renderStatements first all) lines [] ∧ lines.filterMap id = all ∧
      spaces (renderStatements first all) = some ((), renderStatements first all) := by
  induction all generalizing first with
  | nil =>
      refine ⟨[], .stop ?_, rfl, rfl⟩
      simp [renderStatements, line, emptyLine, newline, commentText, statement, key, keyPart, spaces,
        takeWhile, simpleKey, basicText, literalText, bareKey, takeWhile1, satisfy, literal, stripStart]
  | cons one others ih =>
      have own := writable one List.mem_cons_self
      obtain ⟨lines, reads, whole, unblank⟩ :=
        ih (fun other member => writable other (List.mem_cons_of_mem _ member)) false
      obtain ⟨visible, nonempty, -⟩ := head_statement own ('\n' :: renderStatements false others)
      have read : line (one.render ++ '\n' :: renderStatements false others) =
          some (some one, renderStatements false others) := by
        simp [line, nonempty, statement_render own, unblank]
      have shorter : (renderStatements false others).length <
          (one.render ++ '\n' :: renderStatements false others).length := by
        simp only [List.length_append, List.length_cons]
        omega
      have reads' := Reads.more read shorter reads
      by_cases separate : (one.isHeader && !first) = true
      · have emptied : line ('\n' :: (one.render ++ '\n' :: renderStatements false others)) =
            some (none, one.render ++ '\n' :: renderStatements false others) := by
          simp [line, emptyLine, newline, literal, stripStart, visible]
        have both := Reads.more emptied (Nat.lt_succ_self _) reads'
        refine ⟨none :: some one :: lines, ?_, congrArg (one :: ·) whole, spaces_of_head ?_⟩
        · simpa [renderStatements, separate] using both
        · simp [renderStatements, separate, isSpace]
      · refine ⟨some one :: lines, ?_, congrArg (one :: ·) whole, ?_⟩
        · simpa [renderStatements, separate] using reads'
        · simpa [renderStatements, separate] using visible

theorem statements_renderStatements {all : List Statement} (writable : ∀ one ∈ all, one.Writable) :
    statements (renderStatements true all) = some (all, []) := by
  obtain ⟨lines, reads, whole, unblank⟩ := reads_renderStatements writable true
  have unmarked : literal "\ufeff" (renderStatements true all) = none := by
    cases all with
    | nil => rfl
    | cons one others =>
        have own := (head_statement (writable one List.mem_cons_self)
          ('\n' :: renderStatements false others)).2.2
        simpa [renderStatements] using own
  have inside : statements = (do
      let _ ← option (literal "\ufeff")
      spaces
      let lines ← many line
      return lines.filterMap id) := rfl
  rw [inside]
  simp only [run_bind, run_option, unmarked, Option.bind_some, unblank, reads.many_eq, run_pure, whole]

end GatewayControl.Toml
