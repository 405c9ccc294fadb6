import GatewayControl.Template
import GatewayControl.Proofs.Slices

/-!
The grammar of templates, and reading one by positions in bytes.
-/

namespace GatewayControl.Template

/-! Pairs of braces. -/

/-- The first pair of `brace` characters of a text stands between `before` and `after`. -/
def FirstPair (brace : Char) (text before after : List Char) : Prop :=
  text = before ++ brace :: brace :: after ∧
    ∀ earlier later, text = earlier ++ brace :: brace :: later → before.length ≤ earlier.length

def NoPair (brace : Char) (text : List Char) : Prop :=
  ∀ before after, text ≠ before ++ brace :: brace :: after

theorem FirstPair.unique {brace : Char} {text before after earlier later : List Char}
    (first : FirstPair brace text before after) (second : FirstPair brace text earlier later) :
    before = earlier ∧ after = later := by
  have shorter := first.2 _ _ second.1
  have longer := second.2 _ _ first.1
  have same := first.1.symm.trans second.1
  obtain ⟨front, back⟩ := List.append_inj same (by omega)
  injection back with _ back
  injection back with _ back
  exact ⟨front, back⟩

theorem eq_append_of_breakAtPair {brace : Char} {text before after : List Char}
    (found : breakAtPair brace text = some (before, after)) :
    text = before ++ brace :: brace :: after := by
  fun_induction breakAtPair brace text generalizing before after with
  | case1 first second rest pair =>
      cases found
      simp only [Bool.and_eq_true, decide_eq_true_eq] at pair
      rw [pair.1, pair.2, List.nil_append]
  | case2 first second rest other ih =>
      obtain ⟨⟨before', after'⟩, inner, same⟩ := Option.map_eq_some_iff.1 found
      cases same
      rw [List.cons_append, ← ih inner]
  | case3 | case4 => simp at found

theorem breakAtPair_append (brace : Char) (earlier later : List Char) :
    ∃ before after, breakAtPair brace (earlier ++ brace :: brace :: later) = some (before, after) ∧
      before.length ≤ earlier.length := by
  induction earlier with
  | nil => exact ⟨[], later, by simp [breakAtPair], Nat.le_refl _⟩
  | cons head earlier ih =>
      obtain ⟨before, after, found, shorter⟩ := ih
      obtain ⟨second, rest, tail⟩ : ∃ second rest,
          earlier ++ brace :: brace :: later = second :: rest := by
        cases earlier <;> exact ⟨_, _, rfl⟩
      rw [List.cons_append, tail, breakAtPair]
      rw [tail] at found
      split
      · exact ⟨[], rest, rfl, Nat.zero_le _⟩
      · exact ⟨head :: before, after, by rw [found]; rfl, Nat.succ_le_succ shorter⟩

theorem breakAtPair_eq_none_iff {brace : Char} {text : List Char} :
    breakAtPair brace text = none ↔ NoPair brace text := by
  constructor
  · rintro missing before after rfl
    obtain ⟨_, _, found, _⟩ := breakAtPair_append brace before after
    rw [missing] at found
    cases found
  · intro absent
    cases found : breakAtPair brace text with
    | none => rfl
    | some parts => exact absurd (eq_append_of_breakAtPair found) (absent _ _)

theorem breakAtPair_eq_some_iff {brace : Char} {text before after : List Char} :
    breakAtPair brace text = some (before, after) ↔ FirstPair brace text before after := by
  have first {before after : List Char} (found : breakAtPair brace text = some (before, after)) :
      FirstPair brace text before after := by
    refine ⟨eq_append_of_breakAtPair found, ?_⟩
    rintro earlier later rfl
    obtain ⟨_, _, other, shorter⟩ := breakAtPair_append brace earlier later
    rw [found] at other
    cases other
    exact shorter
  constructor
  · exact first
  · intro pair
    obtain ⟨front, back, found, _⟩ := breakAtPair_append brace before after
    rw [← pair.1] at found
    obtain ⟨rfl, rfl⟩ := pair.unique (first found)
    exact found

/-! The grammar. -/

def IsPath (path : List Char) : Prop :=
  ∃ segments, segments ≠ [] ∧ path = ['.'].intercalate segments ∧
    ∀ segment ∈ segments, segment ≠ [] ∧ ∀ char ∈ segment, char.isAlphanum ∨ char = '_'

theorem isPath_iff {path : List Char} : isPath path ↔ IsPath path := by
  have words {segment : List Char} : (!segment.isEmpty && segment.all isPathChar) = true ↔
      segment ≠ [] ∧ ∀ char ∈ segment, char.isAlphanum ∨ char = '_' := by
    simp [isPathChar]
  rw [isPath, List.all_eq_true]
  constructor
  · intro all
    exact ⟨_, Text.splitAt_ne_nil '.' path, (Text.intercalate_splitAt '.' path).symm,
      fun segment member => words.1 (all segment member)⟩
  · rintro ⟨segments, present, rfl, all⟩
    have dotless : ∀ segment ∈ segments, '.' ∉ segment := by
      intro segment member dot
      exact absurd ((all segment member).2 _ dot) (by decide)
    rw [Text.splitAt_intercalate present dotless]
    exact fun segment member => words.2 (all segment member)

theorem IsPath.ne_nil {path : List Char} (isPath : IsPath path) : path ≠ [] := by
  obtain ⟨segments, present, rfl, all⟩ := isPath
  obtain ⟨segment, segments, rfl⟩ := List.exists_cons_of_ne_nil present
  have nonempty := (all segment List.mem_cons_self).1
  cases segments with
  | nil => simpa using nonempty
  | cons next segments => simp [List.intercalate_cons_cons, nonempty]

/-- A placeholder as it stands in a text: what comes before its opening, and what it encloses. -/
structure Piece where
  plain : List Char
  inside : List Char

namespace Piece

def text (piece : Piece) : List Char :=
  piece.plain ++ '{' :: '{' :: (piece.inside ++ ['}', '}'])

theorem utf8Length_text (piece : Piece) :
    Text.utf8Length piece.text =
      Text.utf8Length piece.plain + 2 + Text.utf8Length piece.inside + 2 := by
  have narrow : Char.utf8Size '{' = 1 ∧ Char.utf8Size '}' = 1 := by decide
  simp only [text, Text.utf8Length_append, Text.utf8Length_cons, Text.utf8Length_nil, narrow]
  omega

def Heads (piece : Piece) (text after : List Char) : Prop :=
  ∃ body, FirstPair '{' text piece.plain body ∧ FirstPair '}' body piece.inside after

def Holds (piece : Piece) (path : String) : Prop :=
  Text.Trims piece.inside path.toList ∧ IsPath path.toList

end Piece

/-- `text` starts with the placeholders `pieces`, and `rest` comes after them. -/
inductive Begins : List Char → List Piece → List Char → Prop
  | done (text : List Char) : Begins text [] text
  | piece {text after rest : List Char} {piece : Piece} {pieces : List Piece}
      (heads : piece.Heads text after) (later : Begins after pieces rest) :
      Begins text (piece :: pieces) rest

/-- `pieces` are all placeholders of `text`, and `last` is the text behind them. -/
structure Divides (text : List Char) (pieces : List Piece) (last : List Char) : Prop where
  begins : Begins text pieces last
  plain : NoPair '{' last

inductive Faulty (start text : List Char) : TemplateFault → Prop
  | unclosed {plain body : List Char} (opens : FirstPair '{' text plain body)
      (endless : NoPair '}' body) :
      Faulty start text (.unclosed (String.ofList (start ++ plain)).utf8ByteSize)
  | empty {piece : Piece} {after : List Char} (heads : piece.Heads text after)
      (trims : Text.Trims piece.inside []) :
      Faulty start text (.empty (String.ofList (start ++ piece.plain)).utf8ByteSize)
  | invalidPath {piece : Piece} {after : List Char} {path : String}
      (heads : piece.Heads text after) (trims : Text.Trims piece.inside path.toList)
      (visible : path ≠ "") (wrong : ¬ IsPath path.toList) :
      Faulty start text (.invalidPath path)

theorem Piece.Heads.unique {piece other : Piece} {text after later : List Char}
    (heads : piece.Heads text after) (again : other.Heads text later) :
    piece = other ∧ after = later := by
  obtain ⟨body, opens, closes⟩ := heads
  obtain ⟨_, reopens, recloses⟩ := again
  obtain ⟨plain, rfl⟩ := opens.unique reopens
  obtain ⟨inside, rfl⟩ := closes.unique recloses
  cases piece
  cases other
  exact ⟨by rw [Piece.mk.injEq]; exact ⟨plain, inside⟩, rfl⟩

theorem Piece.Heads.not_noPair {piece : Piece} {text after : List Char}
    (heads : piece.Heads text after) : ¬ NoPair '{' text := by
  obtain ⟨body, opens, _⟩ := heads
  exact fun plain => plain _ _ opens.1

theorem Piece.Heads.text_eq {piece : Piece} {text after : List Char}
    (heads : piece.Heads text after) : text = piece.text ++ after := by
  obtain ⟨body, opens, closes⟩ := heads
  rw [opens.1, closes.1, Piece.text]
  simp

theorem Piece.Heads.length_lt {piece : Piece} {text after : List Char}
    (heads : piece.Heads text after) : after.length < text.length := by
  rw [heads.text_eq, Piece.text]
  simp only [List.length_append, List.length_cons]
  omega

theorem Divides.unique {text last otherLast : List Char} {pieces others : List Piece}
    (divides : Divides text pieces last) (again : Divides text others otherLast) :
    pieces = others ∧ last = otherLast := by
  obtain ⟨begins, plain⟩ := divides
  obtain ⟨rebegins, replain⟩ := again
  induction begins generalizing others with
  | done text =>
      cases rebegins with
      | done => exact ⟨rfl, rfl⟩
      | piece heads => exact absurd plain heads.not_noPair
  | piece heads later ih =>
      cases rebegins with
      | done => exact absurd replain heads.not_noPair
      | piece reheads relater =>
          obtain ⟨rfl, rfl⟩ := heads.unique reheads
          obtain ⟨rfl, rfl⟩ := ih plain relater
          exact ⟨rfl, rfl⟩

/-! Reading by the grammar. -/

theorem heads_cases (text : List Char) :
    NoPair '{' text ∨ (∃ plain body, FirstPair '{' text plain body ∧ NoPair '}' body) ∨
      ∃ piece : Piece, ∃ after, piece.Heads text after := by
  cases opened : breakAtPair '{' text with
  | none => exact .inl (breakAtPair_eq_none_iff.1 opened)
  | some parts =>
      obtain ⟨plain, body⟩ := parts
      have opens := breakAtPair_eq_some_iff.1 opened
      cases closed : breakAtPair '}' body with
      | none => exact .inr (.inl ⟨plain, body, opens, breakAtPair_eq_none_iff.1 closed⟩)
      | some parts =>
          obtain ⟨inside, after⟩ := parts
          exact .inr (.inr ⟨⟨plain, inside⟩, after, body, opens, breakAtPair_eq_some_iff.1 closed⟩)

theorem placeholdersFrom_plain {text : List Char} (plain : NoPair '{' text) (offset : Nat) :
    placeholdersFrom offset text = .ok [] := by
  rw [← breakAtPair_eq_none_iff] at plain
  rw [placeholdersFrom]
  split
  next => rfl
  next _ _ opened => cases plain.symm.trans opened

theorem placeholdersFrom_endless {text plain body : List Char}
    (opens : FirstPair '{' text plain body) (endless : NoPair '}' body) (offset : Nat) :
    placeholdersFrom offset text = .error (.unclosed (offset + Text.utf8Length plain)) := by
  rw [← breakAtPair_eq_some_iff] at opens
  rw [← breakAtPair_eq_none_iff] at endless
  rw [placeholdersFrom]
  split
  next missing => cases opens.symm.trans missing
  next _ _ opened =>
    cases opens.symm.trans opened
    split
    next => rfl
    next _ _ closed => cases endless.symm.trans closed

theorem placeholdersFrom_heads {piece : Piece} {text after : List Char}
    (heads : piece.Heads text after) (offset : Nat) :
    placeholdersFrom offset text =
      if (Text.trim piece.inside).isEmpty then
        .error (.empty (offset + Text.utf8Length piece.plain))
      else if isPath (Text.trim piece.inside) then
        (placeholdersFrom (offset + Text.utf8Length piece.text) after).map
          (String.ofList (Text.trim piece.inside) :: ·)
      else .error (.invalidPath (String.ofList (Text.trim piece.inside))) := by
  obtain ⟨body, opens, closes⟩ := heads
  rw [← breakAtPair_eq_some_iff] at opens closes
  have bytes : offset + Text.utf8Length piece.plain + 2 + Text.utf8Length piece.inside + 2 =
      offset + Text.utf8Length piece.text := by
    rw [piece.utf8Length_text]
    omega
  rw [placeholdersFrom]
  split
  next missing => cases opens.symm.trans missing
  next _ _ opened =>
    cases opens.symm.trans opened
    split
    next missing => cases closes.symm.trans missing
    next _ _ closed =>
      cases closes.symm.trans closed
      simp only [bytes]
      cases placeholdersFrom (offset + Text.utf8Length piece.text) after <;> rfl

theorem placeholdersFrom_piece {piece : Piece} {text after : List Char} {path : String}
    (heads : piece.Heads text after) (holds : piece.Holds path) (offset : Nat) :
    placeholdersFrom offset text =
      (placeholdersFrom (offset + Text.utf8Length piece.text) after).map (path :: ·) := by
  obtain ⟨trims, words⟩ := holds
  rw [placeholdersFrom_heads heads, Text.trim_eq_iff.2 trims, if_neg (by simpa using words.ne_nil),
    if_pos (isPath_iff.2 words), String.ofList_toList]

theorem placeholdersFrom_faulty {start text : List Char} {fault : TemplateFault}
    (faulty : Faulty start text fault) :
    placeholdersFrom (Text.utf8Length start) text = .error fault := by
  cases faulty with
  | unclosed opens endless =>
      rw [placeholdersFrom_endless opens endless, Text.utf8ByteSize_ofList, Text.utf8Length_append]
  | empty heads trims =>
      rw [placeholdersFrom_heads heads, Text.trim_eq_iff.2 trims, Text.utf8ByteSize_ofList,
        Text.utf8Length_append]
      rfl
  | invalidPath heads trims visible wrong =>
      rw [placeholdersFrom_heads heads, Text.trim_eq_iff.2 trims, if_neg (by simpa using visible),
        if_neg (mt isPath_iff.1 wrong), String.ofList_toList]

theorem Begins.placeholdersFrom {text rest : List Char} {pieces : List Piece} {paths : List String}
    (begins : Begins text pieces rest) (holds : List.Forall₂ Piece.Holds pieces paths)
    (offset : Nat) :
    placeholdersFrom offset text =
      (Template.placeholdersFrom (offset + Text.utf8Length (pieces.flatMap Piece.text)) rest).map
        (paths ++ ·) := by
  induction begins generalizing paths offset with
  | done text =>
      cases holds
      cases read : Template.placeholdersFrom offset text <;> simp [Except.map, read]
  | piece heads later ih =>
      obtain _ | ⟨held, holds⟩ := holds
      rw [placeholdersFrom_piece heads held, ih holds, List.flatMap_cons, Text.utf8Length_append,
        ← Nat.add_assoc]
      cases Template.placeholdersFrom _ _ <;> rfl

theorem Divides.placeholdersFrom {text last : List Char} {pieces : List Piece}
    {paths : List String} (divides : Divides text pieces last)
    (holds : List.Forall₂ Piece.Holds pieces paths) (offset : Nat) :
    placeholdersFrom offset text = .ok paths := by
  rw [divides.begins.placeholdersFrom holds, placeholdersFrom_plain divides.plain]
  simp [Except.map]

/-- A text is read to its end, or it has a first faulty placeholder. -/
theorem divides_or_faulty (start text : List Char) :
    (∃ pieces last paths, Divides text pieces last ∧ List.Forall₂ Piece.Holds pieces paths) ∨
      ∃ pieces paths rest fault, Begins text pieces rest ∧ List.Forall₂ Piece.Holds pieces paths ∧
        Faulty (start ++ pieces.flatMap Piece.text) rest fault := by
  induction size : text.length using Nat.strong_induction_on generalizing start text with
  | _ count ih =>
      rcases heads_cases text with plain | ⟨plain, body, opens, endless⟩ | ⟨piece, after, heads⟩
      · exact .inl ⟨[], text, [], ⟨.done text, plain⟩, .nil⟩
      · exact .inr ⟨[], [], text, _, .done text, .nil, .unclosed (by simpa using opens) endless⟩
      · have trims : Text.Trims piece.inside (String.ofList (Text.trim piece.inside)).toList := by
          rw [String.toList_ofList]
          exact Text.trim_eq_iff.1 rfl
        by_cases blank : Text.trim piece.inside = []
        · exact .inr ⟨[], [], text, _, .done text, .nil,
            .empty heads (Text.trim_eq_iff.1 blank)⟩
        by_cases words : IsPath (Text.trim piece.inside)
        · have held : piece.Holds (String.ofList (Text.trim piece.inside)) :=
            ⟨trims, by rwa [String.toList_ofList]⟩
          -- Behind a sound placeholder reading goes on with a shorter text.
          rcases ih _ (size ▸ heads.length_lt) (start ++ piece.text) after rfl with
            ⟨pieces, last, paths, divides, holds⟩ |
            ⟨pieces, paths, rest, fault, begins, holds, faulty⟩
          · exact .inl ⟨_, last, _, ⟨.piece heads divides.begins, divides.plain⟩, .cons held holds⟩
          · refine .inr ⟨_, _, rest, fault, .piece heads begins, .cons held holds, ?_⟩
            rwa [List.flatMap_cons, ← List.append_assoc]
        · refine .inr ⟨[], [], text, _, .done text, .nil, .invalidPath heads trims ?_ ?_⟩
          · exact fun none => blank (by simpa using congrArg String.toList none)
          · rwa [String.toList_ofList]

/-! Reading by positions. -/

def findPair (brace : Char) (text : List Char) : Option Nat :=
  (breakAtPair brace text).map fun (before, _) => Text.utf8Length before

/-- The placeholders behind a position, from the parts of the source between positions; `none` if
there is no such part. -/
def scanFrom (source : List Char) (offset : Nat) :
    Option (Except TemplateFault (List String)) :=
  match _remains : Text.slice? source offset (Text.utf8Length source) with
  | none => none
  | some text =>
    match findPair '{' text with
    | none => some (.ok [])
    | some start =>
      let opening := offset + start
      let bodyStart := opening + 2
      match Text.slice? source bodyStart (Text.utf8Length source) with
      | none => none
      | some body =>
        match findPair '}' body with
        | none => some (.error (.unclosed opening))
        | some length =>
          let close := bodyStart + length
          match Text.slice? source bodyStart close with
          | none => none
          | some inside =>
            let path := Text.trim inside
            if path.isEmpty then some (.error (.empty opening))
            else if isPath path then
              (scanFrom source (close + 2)).map fun read => read.map (String.ofList path :: ·)
            else some (.error (.invalidPath (String.ofList path)))
termination_by Text.utf8Length source + 1 - offset
decreasing_by
  obtain ⟨before, after, _, start, stop⟩ := Text.slice?_eq_some_iff.1 _remains
  rw [Text.utf8Length_append] at stop
  omega

def scan (source : String) : Option (Except TemplateFault Template) :=
  (scanFrom source.toList 0).map fun read => read.map fun placeholders => { source, placeholders }

theorem findPair_eq_none {brace : Char} {text : List Char} (absent : NoPair brace text) :
    findPair brace text = none := by
  rw [findPair, breakAtPair_eq_none_iff.2 absent]
  rfl

theorem findPair_eq_some {brace : Char} {text before after : List Char}
    (pair : FirstPair brace text before after) :
    findPair brace text = some (Text.utf8Length before) := by
  rw [findPair, breakAtPair_eq_some_iff.2 pair]
  rfl

theorem slice?_body {plain body : List Char} (start text : List Char)
    (opens : FirstPair '{' text plain body) :
    Text.slice? (start ++ text) (Text.utf8Length start + Text.utf8Length plain + 2)
      (Text.utf8Length (start ++ text)) = some body := by
  rw [Text.slice?_eq_some_iff, opens.1]
  refine ⟨start ++ plain ++ ['{', '{'], [], by simp, ?_, by simp⟩
  rw [Text.utf8Length_append, Text.utf8Length_append]
  rfl

theorem slice?_inside {plain body inside after : List Char} (start text : List Char)
    (opens : FirstPair '{' text plain body) (closes : FirstPair '}' body inside after) :
    Text.slice? (start ++ text) (Text.utf8Length start + Text.utf8Length plain + 2)
      (Text.utf8Length start + Text.utf8Length plain + 2 + Text.utf8Length inside) =
        some inside := by
  rw [Text.slice?_eq_some_iff, opens.1, closes.1]
  refine ⟨start ++ plain ++ ['{', '{'], '}' :: '}' :: after, by simp, ?_, ?_⟩
  · rw [Text.utf8Length_append, Text.utf8Length_append]
    rfl
  · simp only [Text.utf8Length_append]
    rfl

theorem scanFrom_append (start text : List Char) :
    scanFrom (start ++ text) (Text.utf8Length start) =
      some (placeholdersFrom (Text.utf8Length start) text) := by
  induction size : text.length using Nat.strong_induction_on generalizing start text with
  | _ count ih =>
      -- A position is a boundary because it is the length of what has been read.
      have remains : Text.slice? (start ++ text) (Text.utf8Length start)
          (Text.utf8Length (start ++ text)) = some text := by
        simpa using Text.slice?_append start text []
      rw [scanFrom, remains]
      rcases heads_cases text with plain | ⟨plain, body, opens, endless⟩ | ⟨piece, after, heads⟩
      · simp only [findPair_eq_none plain, placeholdersFrom_plain plain]
      · simp only [findPair_eq_some opens, slice?_body start text opens, findPair_eq_none endless,
          placeholdersFrom_endless opens endless]
      · obtain ⟨body, opens, closes⟩ := heads
        have heads : piece.Heads text after := ⟨body, opens, closes⟩
        have later := ih _ (size ▸ heads.length_lt) (start ++ piece.text) after rfl
        rw [List.append_assoc, ← heads.text_eq, Text.utf8Length_append] at later
        have behind : Text.utf8Length start + Text.utf8Length piece.plain + 2 +
            Text.utf8Length piece.inside + 2 =
              Text.utf8Length start + Text.utf8Length piece.text := by
          rw [piece.utf8Length_text]
          omega
        simp only [findPair_eq_some opens, findPair_eq_some closes, slice?_body start text opens,
          slice?_inside start text opens closes, placeholdersFrom_heads heads, behind, later]
        split
        · rfl
        · split <;> rfl

theorem scan_eq_parse (source : String) : scan source = some (parse source) := by
  have read := scanFrom_append [] source.toList
  rw [List.nil_append, Text.utf8Length_nil] at read
  rw [scan, read, parse]
  rfl

theorem parse_of_divides {source : String} {pieces : List Piece} {last : List Char}
    {paths : List String} (divides : Divides source.toList pieces last)
    (holds : List.Forall₂ Piece.Holds pieces paths) : parse source = .ok ⟨source, paths⟩ := by
  rw [parse, divides.placeholdersFrom holds]
  rfl

theorem parse_of_faulty {source : String} {pieces : List Piece} {rest : List Char}
    {paths : List String} {fault : TemplateFault} (begins : Begins source.toList pieces rest)
    (holds : List.Forall₂ Piece.Holds pieces paths)
    (faulty : Faulty (pieces.flatMap Piece.text) rest fault) : parse source = .error fault := by
  rw [parse, begins.placeholdersFrom holds, Nat.zero_add, placeholdersFrom_faulty faulty]
  rfl

/-- Templates are the texts of their grammar; any other text is refused for its first faulty
placeholder, and no position that is looked at lies inside a character or behind the end. -/
theorem parse_grammar (source : String) :
    (∀ template, parse source = .ok template ↔ template.source = source ∧
      ∃ pieces last, Divides source.toList pieces last ∧
        List.Forall₂ Piece.Holds pieces template.placeholders) ∧
    (∀ pieces last others otherLast, Divides source.toList pieces last →
      Divides source.toList others otherLast → pieces = others ∧ last = otherLast) ∧
    (∀ fault, parse source = .error fault ↔
      ∃ pieces paths rest, Begins source.toList pieces rest ∧
        List.Forall₂ Piece.Holds pieces paths ∧
        Faulty (pieces.flatMap Piece.text) rest fault) ∧
    scan source = some (parse source) := by
  have outcome := divides_or_faulty [] source.toList
  refine ⟨fun template => ⟨fun parsed => ?_, ?_⟩, fun _ _ _ _ => Divides.unique,
    fun fault => ⟨fun refused => ?_, ?_⟩, scan_eq_parse source⟩
  · rcases outcome with ⟨pieces, last, paths, divides, holds⟩ |
      ⟨pieces, paths, rest, fault, begins, holds, faulty⟩
    · cases (parse_of_divides divides holds).symm.trans parsed
      exact ⟨rfl, pieces, last, divides, holds⟩
    · cases (parse_of_faulty begins holds faulty).symm.trans parsed
  · rintro ⟨rfl, pieces, last, divides, holds⟩
    exact parse_of_divides divides holds
  · rcases outcome with ⟨pieces, last, paths, divides, holds⟩ |
      ⟨pieces, paths, rest, other, begins, holds, faulty⟩
    · cases (parse_of_divides divides holds).symm.trans refused
    · cases (parse_of_faulty begins holds faulty).symm.trans refused
      exact ⟨pieces, paths, rest, begins, holds, faulty⟩
  · rintro ⟨pieces, paths, rest, begins, holds, faulty⟩
    exact parse_of_faulty begins holds faulty

theorem parse_between_braces :
    (∃ pieces last,
      Divides "é\x7b\x7b a.b \x7d\x7d\x7d\x7b\x7b_1\x7d\x7d\x7b".toList pieces last ∧
        List.Forall₂ Piece.Holds pieces ["a.b", "_1"]) ∧
    ∃ pieces paths rest, Begins "\x7b\x7ba\x7d\x7dé\x7b\x7b\x7b b".toList pieces rest ∧
      List.Forall₂ Piece.Holds pieces paths ∧
      Faulty (pieces.flatMap Piece.text) rest (.unclosed 7) := by
  have accepted : parse "é\x7b\x7b a.b \x7d\x7d\x7d\x7b\x7b_1\x7d\x7d\x7b" =
      .ok ⟨"é\x7b\x7b a.b \x7d\x7d\x7d\x7b\x7b_1\x7d\x7d\x7b", ["a.b", "_1"]⟩ := by
    simp [parse, placeholdersFrom, breakAtPair, Text.trim, Text.dropEndWhile, Text.isBlank, isPath,
      isPathChar, Text.splitAt, Except.map]
  have refused : parse "\x7b\x7ba\x7d\x7dé\x7b\x7b\x7b b" = .error (.unclosed 7) := by
    simp [parse, placeholdersFrom, breakAtPair, Text.trim, Text.dropEndWhile, Text.isBlank, isPath,
      isPathChar, Text.splitAt, Except.map]
    decide
  exact ⟨(((parse_grammar _).1 _).1 accepted).2, ((parse_grammar _).2.2.1 _).1 refused⟩

end GatewayControl.Template
