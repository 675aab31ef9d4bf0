import Mathlib.Algebra.Order.BigOperators.Group.List
import Mathlib.Algebra.Order.Ring.Nat
import Mathlib.Data.List.SplitBy
import Onboarding.Text.Hexadecimal
import Onboarding.Yaml.Reading
import Onboarding.Yaml.Token

/-! # Scalars of the core schema

A text that stands for itself in a value is a scalar, and YAML 1.2 says which: written plainly,
it means what the core schema takes it for, which may be a number, a truth value or nothing;
written between single quotes, it is always a text. This reading is stricter than the one of
answers files (`Onboarding.Yaml.source`), where the field decides what a scalar means, and it
knows two line ends only.

In both styles a line end does not stand for itself. Folding keeps characters exactly if no line
ends among them (`Onboarding.Yaml.fold_eq_self_iff`). Characters whose quotes are doubled are
read back from between two single quotes (`Onboarding.Yaml.unquote?_doubled`), and characters
without an indicator are plain text whatever stands next to which, so long as they begin and end
with a word (`Onboarding.Yaml.isPlain_iff`).
-/

namespace Onboarding.Yaml

/-- What a scalar may be in the core schema. -/
inductive CoreType where
  | null
  | boolean
  | integer
  | float
  | text
  deriving DecidableEq, Repr

/-- A scalar that was read: what it is, and its characters. -/
structure CoreScalar where
  type : CoreType
  content : String
  deriving DecidableEq, Repr

/-! ## Lines -/

/-- A line feed or a carriage return. -/
def endsLine (c : Char) : Bool :=
  c = '\n' || c = '\r'

/-- A blank or a line end. -/
def isGap (c : Char) : Bool :=
  isBlank c || endsLine c

/-- A blank ends no line. -/
theorem endsLine_of_isBlank {c : Char} (blank : isBlank c = true) : endsLine c = false := by
  rw [isBlank, Bool.or_eq_true, decide_eq_true_eq, decide_eq_true_eq] at blank
  rcases blank with rfl | rfl <;> rfl

/-- The number of lines that end among characters. A carriage return and the line feed behind
it end one line. -/
def lineEnds : List Char → Nat
  | [] => 0
  | c :: rest =>
    if c = '\r' ∧ rest.head? = some '\n' then lineEnds rest
    else if endsLine c then lineEnds rest + 1
    else lineEnds rest

/-- What the white space between two words means: the blanks of one line as they are, a line end
as a space, and each further line end as a line feed. -/
def foldGap (run : List Char) : List Char :=
  match lineEnds run with
  | 0 => run
  | 1 => [' ']
  | further + 2 => List.replicate (further + 1) '\n'

/-- What the characters of a scalar mean, word by word. -/
def fold (chars : List Char) : List Char :=
  (chars.splitBy fun left right => isGap left == isGap right).flatMap foldGap

/-- There are no more line ends than characters that end a line; a pair of them may be one. -/
theorem lineEnds_le_countP (chars : List Char) : lineEnds chars ≤ chars.countP endsLine := by
  induction chars with
  | nil => exact Nat.le_refl 0
  | cons c rest ih =>
      rw [lineEnds, List.countP_cons]
      split_ifs <;> omega

/-- Without such characters there are no line ends. -/
theorem lineEnds_eq_zero_iff {chars : List Char} :
    lineEnds chars = 0 ↔ ∀ c ∈ chars, endsLine c = false := by
  induction chars with
  | nil => simp [lineEnds]
  | cons c rest ih =>
      rw [lineEnds, List.forall_mem_cons, ← ih]
      split_ifs with isPair ends
      · -- the line feed behind the carriage return is counted
        have feed : '\n' ∈ rest := List.mem_of_mem_head? isPair.2
        have counted : lineEnds rest ≠ 0 := fun none => absurd (ih.mp none _ feed) (by decide)
        exact iff_of_false counted fun both => counted both.2
      · simp [ends]
      · simp [ends]

/-- Folding takes line ends away from a run in which a line ends. -/
theorem countP_foldGap_lt {run : List Char} (ends : lineEnds run ≠ 0) :
    (foldGap run).countP endsLine < run.countP endsLine := by
  have bound := lineEnds_le_countP run
  rw [foldGap]
  split
  · rename_i none
    exact absurd none ends
  · rename_i one
    rw [one] at bound
    exact Nat.lt_of_lt_of_le (by decide) bound
  · rename_i further more
    rw [more] at bound
    have kept := List.countP_le_length (p := endsLine) (l := List.replicate (further + 1) '\n')
    rw [List.length_replicate] at kept
    omega

/-- A gap within a line is kept. -/
theorem foldGap_of_no_line_ends {run : List Char} (ends : lineEnds run = 0) :
    foldGap run = run := by
  rw [foldGap, ends]

/-- Folding never adds line ends, so those that it takes away from one run are gone. -/
theorem countP_flatMap_foldGap_lt {runs : List (List Char)} {run : List Char} (isRun : run ∈ runs)
    (ends : lineEnds run ≠ 0) :
    (runs.flatMap foldGap).countP endsLine < runs.flatten.countP endsLine := by
  have noMore : ∀ run ∈ runs, (foldGap run).countP endsLine ≤ run.countP endsLine := by
    intro run _
    by_cases none : lineEnds run = 0
    · rw [foldGap_of_no_line_ends none]
    · exact (countP_foldGap_lt none).le
  rw [List.countP_flatMap, List.countP_flatten]
  exact List.sum_lt_sum _ _ noMore ⟨run, isRun, countP_foldGap_lt ends⟩

/-- Folding keeps characters exactly if no line ends among them. -/
theorem fold_eq_self_iff {chars : List Char} :
    fold chars = chars ↔ ∀ c ∈ chars, endsLine c = false := by
  have joined := List.flatten_splitBy (fun left right => isGap left == isGap right) chars
  rw [fold]
  generalize chars.splitBy (fun left right => isGap left == isGap right) = runs at joined
  subst joined
  have noneEnds : (∀ c ∈ runs.flatten, endsLine c = false) ↔ ∀ run ∈ runs, lineEnds run = 0 := by
    simp only [lineEnds_eq_zero_iff]
    exact List.forall_mem_flatten
  rw [noneEnds]
  constructor
  · intro same run isRun
    by_contra ends
    have fewer := countP_flatMap_foldGap_lt isRun ends
    rw [same] at fewer
    exact absurd fewer (lt_irrefl _)
  · intro noEnds
    have kept : ∀ run ∈ runs, foldGap run = run := fun run isRun =>
      foldGap_of_no_line_ends (noEnds run isRun)
    rw [List.flatMap_congr kept, List.flatMap_id']

/-! ## Single quotes -/

/-- A character that may stand within a line between quotes. -/
def isQuotable (c : Char) : Bool :=
  c = '\t' || 0x20 ≤ c.toNat

/-- Read characters behind an opening quote, up to a closing quote that has to be the last of
them. A quote among them is written twice. -/
def unquote? : List Char → Option (List Char)
  | [] => none
  | c :: rest =>
    if c = '\'' then
      match rest with
      | [] => some []
      | next :: after => if next = '\'' then (unquote? after).map ('\'' :: ·) else none
    else if isQuotable c || endsLine c then (unquote? rest).map (c :: ·)
    else none

/-- Characters as they are written between quotes. -/
def doubled (chars : List Char) : List Char :=
  chars.flatMap fun c => if c = '\'' then ['\'', '\''] else [c]

/-- Without a quote there is none to double. -/
theorem doubled_of_no_quote {chars : List Char} (noQuote : '\'' ∉ chars) :
    doubled chars = chars := by
  have single : ∀ c ∈ chars, (if c = '\'' then ['\'', '\''] else [c]) = [c] := by
    intro c member
    refine if_neg ?_
    rintro rfl
    exact noQuote member
  rw [doubled, List.flatMap_congr single, List.flatMap_singleton']

/-- Characters are read back from between quotes if the quotes among them are doubled and each
may stand there. -/
theorem unquote?_doubled (chars : List Char) :
    unquote? (doubled chars ++ ['\'']) =
      if chars.all fun c => isQuotable c || endsLine c then some chars else none := by
  induction chars with
  | nil => rfl
  | cons c rest ih =>
      rw [doubled] at ih ⊢
      rw [List.flatMap_cons, List.append_assoc, List.all_cons]
      by_cases isQuote : c = '\''
      · subst isQuote
        rw [if_pos rfl, List.cons_append, List.cons_append, List.nil_append, unquote?, if_pos rfl,
          if_pos rfl, ih]
        cases rest.all fun c => isQuotable c || endsLine c <;> rfl
      · rw [if_neg isQuote, List.cons_append, List.nil_append, unquote?.eq_def]
        dsimp only
        rw [if_neg isQuote, ih]
        cases isQuotable c || endsLine c with
        | false => rfl
        | true => cases rest.all fun c => isQuotable c || endsLine c <;> rfl

/-! ## Plain text -/

/-- A character of a word that is written plainly. -/
def isPlainChar (c : Char) : Bool :=
  isAllowed c && !isGap c && c != '\ufeff'

theorem endsLine_of_isPlainChar {c : Char} (plain : isPlainChar c = true) : endsLine c = false := by
  simp only [isPlainChar, isGap, Bool.and_eq_true, Bool.not_eq_true', Bool.or_eq_false_iff] at plain
  exact plain.1.2.2

/-- Whether plain text that has come to a character may go on with these. A number sign does not
begin a word, a colon does not end one, and white space does not end the text. -/
def continuesPlain (previous : Char) : List Char → Bool
  | [] => !isGap previous
  | c :: rest =>
    (isGap c || (isPlainChar c && (c != '#' || !isGap previous) &&
      (c != ':' || rest.head?.any isPlainChar))) && continuesPlain c rest

/-- Whether characters are plain text. An indicator begins one only if it may begin a word. -/
def isPlain : List Char → Bool
  | [] => false
  | c :: rest =>
    isPlainChar c &&
      (!Scan.indicators.contains c ||
        ((c = '-' || c = '?' || c = ':') && rest.head?.any isPlainChar)) &&
      continuesPlain c rest

/-- Without the signs of comments and of values, a plain scalar goes on over gaps and plain
characters, and does not end in a gap. -/
theorem continuesPlain_iff {chars : List Char} (noSign : '#' ∉ chars) (noColon : ':' ∉ chars)
    (previous : Char) :
    continuesPlain previous chars = true ↔
      (∀ c ∈ chars, isGap c = true ∨ isPlainChar c = true) ∧
        isGap (chars.getLastD previous) = false := by
  induction chars generalizing previous with
  | nil => simp [continuesPlain]
  | cons c rest ih =>
      rw [List.mem_cons, not_or] at noSign noColon
      have isNoSign : (c != '#') = true := by simpa using Ne.symm noSign.1
      have isNoColon : (c != ':') = true := by simpa using Ne.symm noColon.1
      rw [continuesPlain, isNoSign, isNoColon, Bool.and_eq_true, ih noSign.2 noColon.2,
        List.forall_mem_cons, List.getLastD_cons]
      simp [and_assoc]

/-- Characters without an indicator are plain text if they begin and end with a word. -/
theorem isPlain_iff {first : Char} {rest : List Char}
    (noIndicator : ∀ c ∈ first :: rest, c ∉ Scan.indicators)
    (begins : isGap first = false) (ends : isGap (rest.getLastD first) = false) :
    isPlain (first :: rest) = true ↔
      ∀ c ∈ first :: rest, isGap c = true ∨ isPlainChar c = true := by
  have noSign : '#' ∉ rest := fun member =>
    noIndicator _ (List.mem_cons_of_mem _ member) (by decide)
  have noColon : ':' ∉ rest := fun member =>
    noIndicator _ (List.mem_cons_of_mem _ member) (by decide)
  have isNone : Scan.indicators.contains first = false := by
    simpa using noIndicator first List.mem_cons_self
  rw [isPlain, isNone, Bool.and_eq_true, continuesPlain_iff noSign noColon, List.forall_mem_cons,
    and_iff_left ends, begins]
  simp

/-! ## The core schema -/

/-- Digits, and one at least. -/
def isDecimal (digits : List Char) : Bool :=
  !digits.isEmpty && digits.all Char.isDigit

/-- What stands behind the sign of a number, if there is one. -/
def unsigned : List Char → List Char
  | '+' :: rest => rest
  | '-' :: rest => rest
  | chars => chars

/-- Whether characters are an integer: a decimal with or without a sign, or an octal or a
hexadecimal number behind `0o` or `0x`. -/
def isInteger : List Char → Bool
  | '0' :: 'o' :: digits => !digits.isEmpty && digits.all fun c => '0' ≤ c && c ≤ '7'
  | '0' :: 'x' :: digits => !digits.isEmpty && digits.all fun c => (Text.hexValue? c).isSome
  | chars => isDecimal (unsigned chars)

/-- Whether characters may stand behind the digits of a float: an exponent, or nothing. -/
def isExponent : List Char → Bool
  | [] => true
  | mark :: rest => (mark = 'e' || mark = 'E') && isDecimal (unsigned rest)

/-- Whether characters are a float: digits with a point before, among or behind them or without
one, and maybe an exponent; an infinity; or what is not a number. -/
def isFloat (chars : List Char) : Bool :=
  let number := unsigned chars
  let whole := number.takeWhile Char.isDigit
  [".inf", ".Inf", ".INF"].contains (String.ofList number) ||
    [".nan", ".NaN", ".NAN"].contains (String.ofList chars) ||
    match number.dropWhile Char.isDigit with
    | '.' :: rest =>
      (!whole.isEmpty || rest.head?.any Char.isDigit) && isExponent (rest.dropWhile Char.isDigit)
    | rest => !whole.isEmpty && isExponent rest

/-- What the core schema takes plain text for. -/
def coreType (content : String) : CoreType :=
  if content.isEmpty || nullWords.contains content then .null
  else if (flagWords.lookup content).isSome then .boolean
  else if isInteger content.toList then .integer
  else if isFloat content.toList then .float
  else .text

/-- Read a text that is nothing but a scalar, written plainly or between single quotes. A text
without characters stands for nothing. -/
def CoreScalar.ofText? (text : String) : Option CoreScalar :=
  match text.toList with
  | [] => some ⟨.null, ""⟩
  | first :: rest =>
    if first = '\'' then
      (unquote? rest).map fun content => ⟨.text, String.ofList (fold content)⟩
    else if isPlain (first :: rest) then
      let content := String.ofList (fold (first :: rest))
      some ⟨coreType content, content⟩
    else none

theorem endsLine_of_isQuotable {c : Char} (quotable : isQuotable c = true) :
    endsLine c = false := by
  rw [endsLine, Bool.or_eq_false_iff, decide_eq_false_iff_not, decide_eq_false_iff_not]
  constructor
  · rintro rfl
    exact absurd quotable (by decide)
  · rintro rfl
    exact absurd quotable (by decide)

/-- A text is read back from between quotes, its own quotes being doubled, exactly if all its
characters may stand within a line there. -/
theorem CoreScalar.ofText?_between (value : String) :
    ofText? ("'" ++ String.ofList (doubled value.toList) ++ "'") = some ⟨.text, value⟩ ↔
      ∀ c ∈ value.toList, isQuotable c = true := by
  have chars : ("'" ++ String.ofList (doubled value.toList) ++ "'").toList =
      '\'' :: (doubled value.toList ++ ['\'']) := by
    simp only [String.toList_append, String.toList_ofList]
    rfl
  rw [ofText?, chars]
  dsimp only
  rw [if_pos rfl, unquote?_doubled]
  constructor
  · intro isRead
    split at isRead
    · rename_i accepted
      have content := congrArg CoreScalar.content (Option.some.inj isRead)
      have kept : fold value.toList = value.toList := by
        rw [← String.toList_inj, String.toList_ofList] at content
        exact content
      intro c member
      have allowed := List.all_eq_true.mp accepted c member
      rwa [fold_eq_self_iff.mp kept c member, Bool.or_false] at allowed
    · cases isRead
  · intro quotable
    have accepted : (value.toList.all fun c => isQuotable c || endsLine c) = true :=
      List.all_eq_true.mpr fun c member => by rw [quotable c member, Bool.true_or]
    have kept : fold value.toList = value.toList :=
      fold_eq_self_iff.mpr fun c member => endsLine_of_isQuotable (quotable c member)
    rw [if_pos accepted, Option.map_some, kept, String.ofList_toList]

/-- A text without an indicator that begins and ends with a word is read back exactly if each of
its characters may be written plainly in one line and the core schema takes it for a text. -/
theorem CoreScalar.ofText?_plain {value : String} {first : Char} {rest : List Char}
    (chars : value.toList = first :: rest) (noIndicator : ∀ c ∈ value.toList, c ∉ Scan.indicators)
    (begins : isGap first = false) (ends : isGap (rest.getLastD first) = false) :
    ofText? value = some ⟨.text, value⟩ ↔
      (∀ c ∈ value.toList, isBlank c = true ∨ isPlainChar c = true) ∧ coreType value = .text := by
  rw [chars] at noIndicator
  have noQuote : first ≠ '\'' := by
    rintro rfl
    exact noIndicator _ List.mem_cons_self (by decide)
  rw [ofText?, chars]
  dsimp only
  rw [if_neg noQuote]
  constructor
  · intro isRead
    split at isRead
    · rename_i plain
      have content := congrArg CoreScalar.content (Option.some.inj isRead)
      have type := congrArg CoreScalar.type (Option.some.inj isRead)
      dsimp only at content type
      have kept : fold (first :: rest) = first :: rest := by
        rw [← String.toList_inj, String.toList_ofList, chars] at content
        exact content
      refine ⟨fun c member => ?_, by rwa [content] at type⟩
      have allowed := (isPlain_iff noIndicator begins ends).mp plain c member
      rwa [isGap, fold_eq_self_iff.mp kept c member, Bool.or_false] at allowed
    · cases isRead
  · rintro ⟨allowed, type⟩
    have plain : isPlain (first :: rest) = true :=
      (isPlain_iff noIndicator begins ends).mpr fun c member =>
        (allowed c member).imp_left fun blank => by rw [isGap, blank, Bool.true_or]
    have kept : fold (first :: rest) = first :: rest :=
      fold_eq_self_iff.mpr fun c member => by
        rcases allowed c member with blank | plainChar
        · exact endsLine_of_isBlank blank
        · exact endsLine_of_isPlainChar plainChar
    rw [if_pos plain, kept, ← chars, String.ofList_toList, type]

end Onboarding.Yaml
