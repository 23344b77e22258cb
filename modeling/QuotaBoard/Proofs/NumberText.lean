import Mathlib.Data.List.TakeWhile
import QuotaBoard.Json.Text
import QuotaBoard.Proofs.Numerals

/-!
# A number in the middle of a text

A string, an array and an object end where their last character says so.  A number does not: it
goes on for as long as it can, so whether it is read as it was written depends on what follows.
What may follow a value (`Stops`) is nothing that a number could go on with.

The reader of numbers is taken apart for that into readers of its parts, none of which looks further
ahead than one character (`Takes`); readers of this kind can be chained (`Takes.bind`), so the whole
is one of them (`takes_readNumber?`).  Hence a number that is read back from its own text is read
back from the front of any text in which something may follow it (`Number.Survives.readNumber?`).
All integers that fit are such numbers (`Number.survives_integer`).
-/

namespace QuotaBoard

namespace Document

/-! ## 1. Readers that look one character ahead -/

/-- What may follow a value. -/
def Stops (rest : List Char) : Prop :=
  ∀ c ∈ rest.head?, isSpace c = true ∨ c = ',' ∨ c = ']' ∨ c = '}'

theorem stops_nil : Stops [] := by
  simp [Stops]

theorem Stops.spaces {sp rest : List Char} (h : ∀ c ∈ sp, isSpace c = true)
    (hrest : Stops rest) : Stops (sp ++ rest) := by
  cases sp with
  | nil => exact hrest
  | cons c cs =>
    intro d hd
    obtain rfl : c = d := by simpa using hd
    exact .inl (h c List.mem_cons_self)

/-- A number does not go on at such a place. -/
theorem Stops.head {c : Char} {rest : List Char} (h : Stops (c :: rest)) :
    c.isDigit = false ∧ c ≠ '-' ∧ c ≠ '+' ∧ c ≠ '.' ∧ c ≠ 'e' ∧ c ≠ 'E' := by
  have hc := h c rfl
  simp only [isSpace, Bool.or_eq_true, decide_eq_true_eq] at hc
  rcases hc with (((rfl | rfl) | rfl) | rfl) | rfl | rfl | rfl <;> decide

/-- A reader of the start of a text that looks one character ahead at most: it would do the same
before anything that goes on like what is left, or that ends a value. -/
def Takes {α : Type} (read : List Char → Option (α × List Char)) : Prop :=
  ∀ cs a left, read cs = some (a, left) → ∃ taken, cs = taken ++ left ∧
    ∀ rest, rest.head? = left.head? ∨ Stops rest → read (taken ++ rest) = some (a, rest)

theorem Takes.bind {α β : Type} {first : List Char → Option (α × List Char)}
    {next : α → List Char → Option (β × List Char)} (hfirst : Takes first)
    (hnext : ∀ a, Takes (next a)) :
    Takes fun cs => (first cs).bind fun p => next p.1 p.2 := by
  intro cs b left h
  obtain ⟨⟨a, between⟩, ha, hb⟩ := Option.bind_eq_some_iff.mp h
  obtain ⟨front, rfl, hfront⟩ := hfirst cs a between ha
  obtain ⟨back, rfl, hback⟩ := hnext a between b left hb
  refine ⟨front ++ back, (List.append_assoc ..).symm, fun rest hrest => ?_⟩
  -- the first reader looks ahead into what the second one takes, or past it
  have hahead : (back ++ rest).head? = (back ++ left).head? ∨ Stops (back ++ rest) := by
    cases back with
    | nil => exact hrest
    | cons c cs => exact .inl rfl
  calc ((first (front ++ back ++ rest)).bind fun p => next p.1 p.2)
      = next a (back ++ rest) := by rw [List.append_assoc, hfront _ hahead, Option.bind_some]
    _ = some (b, rest) := hback rest hrest

/-- Digits, as many as there are. -/
def readDigits (cs : List Char) : Option (List Char × List Char) :=
  some (cs.takeWhile Char.isDigit, cs.dropWhile Char.isDigit)

theorem takes_readDigits : Takes readDigits := by
  intro cs digits left h
  obtain ⟨rfl, rfl⟩ := Prod.mk.inj (Option.some.inj h)
  refine ⟨cs.takeWhile Char.isDigit, List.takeWhile_append_dropWhile.symm, fun rest hrest => ?_⟩
  have hdigits : ∀ c ∈ cs.takeWhile Char.isDigit, c.isDigit = true :=
    fun c hc => List.mem_takeWhile_imp hc
  have hstop : ∀ c ∈ rest.head?, c.isDigit = false := by
    intro c hc
    rcases hrest with hsame | hstops
    · have hleft := List.head?_dropWhile_not Char.isDigit cs
      rw [← hsame, hc] at hleft
      exact hleft
    · cases rest with
      | nil => cases hc
      | cons d rest =>
        obtain rfl : d = c := by simpa using hc
        exact hstops.head.1
  -- so the digits end where they ended before
  have hnone : rest.takeWhile Char.isDigit = [] ∧ rest.dropWhile Char.isDigit = rest := by
    cases rest with
    | nil => exact ⟨rfl, rfl⟩
    | cons c rest =>
      have hc := hstop c rfl
      simp [hc]
  rw [readDigits, List.takeWhile_append_of_pos hdigits, List.dropWhile_append_of_pos hdigits,
    hnone.1, hnone.2, List.append_nil]

/-- A part that is there if the text goes on with one of some characters. -/
def readIf {α : Type} (starts : Char → Bool) (read : Char → List Char → Option (α × List Char))
    (otherwise : α) : List Char → Option (α × List Char)
  | [] => some (otherwise, [])
  | c :: cs => if starts c then read c cs else some (otherwise, c :: cs)

theorem readIf_of_not {α : Type} {starts : Char → Bool}
    {read : Char → List Char → Option (α × List Char)} {otherwise : α} {cs : List Char}
    (h : ∀ c ∈ cs.head?, starts c = false) :
    readIf starts read otherwise cs = some (otherwise, cs) := by
  cases cs with
  | nil => rfl
  | cons c rest => simp [readIf, h c rfl]

theorem readIf_of_ne {α : Type} {start : Char} {read : Char → List Char → Option (α × List Char)}
    {otherwise : α} {cs : List Char} (h : ∀ rest, cs = start :: rest → False) :
    readIf (· = start) read otherwise cs = some (otherwise, cs) := by
  refine readIf_of_not fun c hc => decide_eq_false ?_
  rintro rfl
  obtain ⟨rest, rfl⟩ := List.head?_eq_some_iff.mp hc
  exact h rest rfl

theorem takes_some {α : Type} (a : α) : Takes fun cs => some (a, cs) := by
  intro cs b left h
  obtain ⟨rfl, rfl⟩ := Prod.mk.inj (Option.some.inj h)
  exact ⟨[], rfl, fun rest _ => rfl⟩

theorem takes_ite {α : Type} (p : Prop) [Decidable p] (a : α) :
    Takes fun cs => if p then some (a, cs) else none := by
  by_cases hp : p
  · simpa only [if_pos hp] using takes_some a
  · intro cs b left h
    simp [hp] at h

theorem takes_readIf {α : Type} {starts : Char → Bool}
    {read : Char → List Char → Option (α × List Char)} {otherwise : α}
    (hstarts : ∀ c cs, Stops (c :: cs) → starts c = false) (hread : ∀ c, Takes (read c)) :
    Takes (readIf starts read otherwise) := by
  -- nothing is taken where the part is missing
  have hmissing : ∀ left : List Char, (∀ c ∈ left.head?, starts c = false) →
      ∀ rest : List Char, rest.head? = left.head? ∨ Stops rest →
        readIf starts read otherwise rest = some (otherwise, rest) := by
    intro left hleft rest hrest
    refine readIf_of_not fun c hc => ?_
    rcases hrest with hsame | hstops
    · exact hleft c (hsame ▸ hc)
    · obtain ⟨rest, rfl⟩ := List.head?_eq_some_iff.mp hc
      exact hstarts c rest hstops
  intro cs a left h
  cases cs with
  | nil =>
    obtain ⟨rfl, rfl⟩ := Prod.mk.inj (Option.some.inj h)
    exact ⟨[], rfl, hmissing [] (by simp)⟩
  | cons c cs =>
    cases hc : starts c with
    | false =>
      simp only [readIf, hc, Bool.false_eq_true, if_false] at h
      obtain ⟨rfl, rfl⟩ := Prod.mk.inj (Option.some.inj h)
      exact ⟨[], rfl, hmissing (c :: cs) (by simpa using hc)⟩
    | true =>
      simp only [readIf, hc, if_true] at h
      obtain ⟨taken, rfl, htaken⟩ := hread c cs a left h
      refine ⟨c :: taken, rfl, fun rest hrest => ?_⟩
      simp only [List.cons_append, readIf, hc, if_true]
      exact htaken rest hrest

/-! ## 2. A number part by part -/

/-- The minus sign, if there is one. -/
def readSign : List Char → Option (Bool × List Char) :=
  readIf (· = '-') (fun _ cs => some (true, cs)) false

/-- The digits before the point. -/
def readWhole? (cs : List Char) : Option (List Char × List Char) :=
  (readDigits cs).bind fun p =>
    if !p.1.isEmpty && (p.1.length == 1 || p.1.head? != some '0') then some p else none

/-- At least one digit. -/
def readSomeDigits? (cs : List Char) : Option (List Char × List Char) :=
  (readDigits cs).bind fun p => if !p.1.isEmpty then some p else none

theorem readSomeDigits?_eq (cs : List Char) :
    readSomeDigits? cs =
      if (cs.takeWhile Char.isDigit).isEmpty then none
      else some (cs.takeWhile Char.isDigit, cs.dropWhile Char.isDigit) := by
  rw [readSomeDigits?, readDigits, Option.bind_some]
  cases (cs.takeWhile Char.isDigit).isEmpty <;> rfl

/-- The digits after the point, if there is a point. -/
def readFraction? : List Char → Option (Option (List Char) × List Char) :=
  readIf (· = '.') (fun _ cs => (readSomeDigits? cs).bind fun p => some (some p.1, p.2)) none

/-- The sign of an exponent; whether it is negative. -/
def readExponentSign : List Char → Option (Bool × List Char) :=
  readIf (fun c => c = '-' || c = '+') (fun c cs => some (decide (c = '-'), cs)) false

/-- The number of some parts: an integer without point and exponent, if it fits. -/
def numberOf? (negative : Bool) (whole : List Char) (fraction? : Option (List Char))
    (exponent? : Option Int) : Option Json.Number :=
  let n := digitsValue whole
  let signed : Int := if negative then -n else n
  if fraction?.isNone && exponent?.isNone && !(negative && n == 0) && Json.Number.fits signed then
    some (Json.Number.integer signed)
  else
    (Numeral.approximate? ⟨negative, whole, fraction?.getD [], exponent?.getD 0⟩).map .double

/-- The document of some parts. -/
def ofParts (negative : Bool) (whole : List Char) (fraction? : Option (List Char))
    (exponent? : Option Int) : Document :=
  match numberOf? negative whole fraction? exponent? with
  | some n => .number n
  | none => .unreadable

/-- The digits of an exponent after its sign. -/
def readExponentDigits? (negative : Bool) (cs : List Char) : Option (Option Int × List Char) :=
  (readSomeDigits? cs).bind fun p =>
    some (some (if negative then -(digitsValue p.1 : Int) else digitsValue p.1), p.2)

/-- An exponent is read part by part. -/
theorem readExponent?_eq :
    readExponent? = readIf (fun c => c = 'e' || c = 'E') (fun _ cs =>
      (readExponentSign cs).bind fun sign => readExponentDigits? sign.1 sign.2) none := by
  have hdigits : ∀ negative cs, readExponentDigits? negative cs =
      if (cs.takeWhile Char.isDigit).isEmpty then none
      else
        some (some (if negative then -(digitsValue (cs.takeWhile Char.isDigit) : Int)
          else digitsValue (cs.takeWhile Char.isDigit)), cs.dropWhile Char.isDigit) := by
    intro negative cs
    rw [readExponentDigits?, readSomeDigits?_eq]
    split <;> rfl
  funext cs
  unfold readExponent?
  split
  case h_1 rest | h_2 rest =>
    split
    rename_i negative left heq
    have hsign : readExponentSign rest = some (negative, left) := by
      split at heq
      · rw [← heq]
        rfl
      · rw [← heq]
        rfl
      · rename_i hminus hplus
        rw [← heq]
        refine readIf_of_not fun c hc => ?_
        obtain ⟨rest, rfl⟩ := List.head?_eq_some_iff.mp hc
        simp_all
    change _ = (readExponentSign rest).bind fun sign => readExponentDigits? sign.1 sign.2
    rw [hsign, Option.bind_some, hdigits]
  case h_3 =>
    rename_i hlower hupper
    refine (readIf_of_not fun c hc => ?_).symm
    obtain ⟨rest, rfl⟩ := List.head?_eq_some_iff.mp hc
    simp_all

/-- A number is read part by part. -/
theorem readNumber?_eq (cs : List Char) :
    readNumber? cs =
      (readSign cs).bind fun sign => (readWhole? sign.2).bind fun whole =>
        (readFraction? whole.2).bind fun fraction => (readExponent? fraction.2).bind fun exponent =>
          some (ofParts sign.1 whole.1 fraction.1 exponent.1, exponent.2) := by
  have hpoint : ∀ rest, readFraction? ('.' :: rest) =
      (readSomeDigits? rest).bind fun p => some (some p.1, p.2) := fun _ => rfl
  unfold readNumber?
  split
  rename_i negative left heq
  have hsign : readSign cs = some (negative, left) := by
    split at heq
    · rw [← heq]
      rfl
    · rw [← heq]
      exact readIf_of_ne ‹_›
  rw [hsign, Option.bind_some]
  simp only [readWhole?, readDigits, Option.bind_some, guard]
  generalize left.takeWhile Char.isDigit = whole, left.dropWhile Char.isDigit = left
  split
  · simp only [Option.bind_some, Option.pure_def, Option.bind_eq_bind]
    split
    · rw [hpoint, readSomeDigits?_eq]
      split <;> rfl
    · rw [readFraction?, readIf_of_ne ‹_›]
      rfl
  · rfl

/-! ## 3. Where a number ends -/

theorem takes_readSomeDigits? : Takes readSomeDigits? :=
  takes_readDigits.bind fun digits => takes_ite (!digits.isEmpty) digits

theorem takes_readSign : Takes readSign := by
  refine takes_readIf (fun c cs h => ?_) fun _ => takes_some true
  simpa using h.head.2.1

theorem takes_readWhole? : Takes readWhole? :=
  takes_readDigits.bind fun digits =>
    takes_ite (!digits.isEmpty && (digits.length == 1 || digits.head? != some '0')) digits

theorem takes_readFraction? : Takes readFraction? := by
  refine takes_readIf (fun c cs h => ?_) fun _ => ?_
  · simpa using h.head.2.2.2.1
  · exact takes_readSomeDigits?.bind fun digits => takes_some (some digits)

theorem takes_readExponentSign : Takes readExponentSign := by
  refine takes_readIf (fun c cs h => ?_) fun c => takes_some _
  simpa using ⟨h.head.2.1, h.head.2.2.1⟩

theorem takes_readExponentDigits? (negative : Bool) : Takes (readExponentDigits? negative) :=
  takes_readSomeDigits?.bind fun digits =>
    takes_some (some (if negative then -(digitsValue digits : Int) else digitsValue digits))

theorem takes_readExponent? : Takes readExponent? := by
  rw [readExponent?_eq]
  refine takes_readIf (fun c cs h => ?_) fun _ => ?_
  · simpa using h.head.2.2.2.2
  · exact takes_readExponentSign.bind takes_readExponentDigits?

theorem takes_readNumber? : Takes readNumber? := by
  rw [funext readNumber?_eq]
  exact takes_readSign.bind fun negative => takes_readWhole?.bind fun whole =>
    takes_readFraction?.bind fun fraction? => takes_readExponent?.bind fun exponent? =>
      takes_some (ofParts negative whole fraction? exponent?)

/-- A number starts with a digit or with a minus sign. -/
theorem readNumber?_head {cs : List Char} {p : Document × List Char}
    (h : readNumber? cs = some p) : ∃ c rest, cs = c :: rest ∧ (c.isDigit = true ∨ c = '-') := by
  rw [readNumber?_eq] at h
  obtain ⟨sign, hsign, h⟩ := Option.bind_eq_some_iff.mp h
  obtain ⟨whole, hwhole, -⟩ := Option.bind_eq_some_iff.mp h
  cases cs with
  | nil =>
    obtain rfl := Option.some.inj hsign
    cases hwhole
  | cons c rest =>
    refine ⟨c, rest, rfl, ?_⟩
    by_cases hminus : c = '-'
    · exact .inr hminus
    · have hnone : readSign (c :: rest) = some (false, c :: rest) :=
        readIf_of_not (by simpa using hminus)
      obtain rfl := Option.some.inj (hsign.symm.trans hnone)
      cases hc : c.isDigit with
      | true => exact .inl rfl
      | false => simp [readWhole?, readDigits, hc] at hwhole

/-! ## 4. Whole numbers -/

/-- No superfluous zero stands in front of a whole number. -/
theorem head?_toDigits {n : Nat} (h : 0 < n) : (Nat.toDigits 10 n).head? ≠ some '0' := by
  induction n using Nat.strongRecOn with
  | ind n ih =>
    by_cases hlt : n < 10
    · have hdigit : ∀ d < 10, 0 < d → d.digitChar ≠ '0' := by decide
      rw [Nat.toDigits_of_lt_base hlt]
      simpa using hdigit n hlt h
    · have hfront := ih (n / 10) (by omega) (by omega)
      rw [Nat.toDigits_of_base_le (by decide) (by omega)]
      cases hdigits : Nat.toDigits 10 (n / 10) with
      | nil => exact absurd hdigits Nat.toDigits_ne_nil
      | cons c rest =>
        rw [hdigits] at hfront
        exact hfront

/-- The digits of a whole number are read as they stand. -/
theorem readWhole?_toDigits (n : Nat) :
    readWhole? (Nat.toDigits 10 n) = some (Nat.toDigits 10 n, []) := by
  have hdigit : ∀ c ∈ Nat.toDigits 10 n, c.isDigit = true :=
    fun c hc => Nat.isDigit_of_mem_toDigits (by decide) (by decide) hc
  have hzero : (Nat.toDigits 10 n).length = 1 ∨ (Nat.toDigits 10 n).head? ≠ some '0' := by
    rcases Nat.eq_zero_or_pos n with rfl | hpos
    · exact .inl rfl
    · exact .inr (head?_toDigits hpos)
  rw [readWhole?, readDigits, Option.bind_some, List.takeWhile_eq_self_iff.mpr hdigit,
    List.dropWhile_eq_nil_iff.mpr hdigit, if_pos]
  simpa using hzero

/-- A whole number that fits is read back. -/
theorem readNumber?_integer {n : Int} (h : Json.Number.fits n) :
    readNumber? (Json.Number.integer n).chars = some (.number (.integer n), []) := by
  have hchars : (Json.Number.integer n).chars =
      (if n < 0 then ['-'] else []) ++ Nat.toDigits 10 n.natAbs := by
    rw [← toList_toString, ← Json.Number.text_integer, Json.Number.text, String.toList_ofList]
  have hsign : readSign (Json.Number.integer n).chars =
      some (decide (n < 0), Nat.toDigits 10 n.natAbs) := by
    rw [hchars]
    by_cases hneg : n < 0
    · simp [hneg, readSign, readIf]
    · simp only [hneg, if_false, List.nil_append, decide_false]
      refine readIf_of_not fun c hc => decide_eq_false ?_
      rintro rfl
      have hdigit := Nat.isDigit_of_mem_toDigits (by decide) (by decide) (List.mem_of_head? hc)
      exact absurd hdigit (by decide)
  have hparts : ofParts (decide (n < 0)) (Nat.toDigits 10 n.natAbs) none none =
      .number (.integer n) := by
    have hsigned : (if decide (n < 0) = true then -(n.natAbs : Int) else n.natAbs) = n := by
      simp only [decide_eq_true_eq]
      split <;> omega
    have hzero : (!(decide (n < 0) && n.natAbs == 0)) = true := by
      simp only [Bool.not_eq_true', Bool.and_eq_false_iff, decide_eq_false_iff_not,
        beq_eq_false_iff_ne]
      omega
    simp only [ofParts, numberOf?, Json.digitsValue_toDigits, hsigned, hzero, h, Option.isNone_none,
      Bool.and_true, decide_true, if_true]
  rw [readNumber?_eq, hsign, Option.bind_some, readWhole?_toDigits]
  simp [readFraction?, readExponent?_eq, readIf, hparts]

end Document

namespace Json

/-! ## 5. The characters of a number -/

/-- The characters of which numbers are made. -/
def IsNumeral (c : Char) : Prop := c.isDigit = true ∨ c = '-' ∨ c = '+' ∨ c = '.' ∨ c = 'e'

theorem isNumeral_zero : IsNumeral '0' := .inl rfl

theorem isNumeral_minus : IsNumeral '-' := .inr (.inl rfl)

theorem isNumeral_point : IsNumeral '.' := .inr (.inr (.inr (.inl rfl)))

theorem isNumeral_of_mem_toDigits (n : Nat) : ∀ c ∈ Nat.toDigits 10 n, IsNumeral c :=
  fun _ h => .inl (Nat.isDigit_of_mem_toDigits (by decide) (by decide) h)

theorem not_blank_of_isNumeral {c : Char} (h : IsNumeral c) : Text.isBlank c = false := by
  rcases h with hdigit | rfl | rfl | rfl | rfl
  · exact Text.isBlank_of_isDigit hdigit
  all_goals decide

theorem not_space_of_isNumeral {c : Char} (h : IsNumeral c) : Document.isSpace c = false := by
  rw [Bool.eq_false_iff]
  intro hspace
  have hblank : Text.isBlank c = true := by
    simp only [Document.isSpace, Bool.or_eq_true, decide_eq_true_eq] at hspace
    rcases hspace with ((rfl | rfl) | rfl) | rfl <;> rfl
  exact absurd ((not_blank_of_isNumeral h).symm.trans hblank) (by decide)

theorem isNumeral_of_mem_pointed {digits : List Char} (h : ∀ c ∈ digits, IsNumeral c)
    (whole : Nat) : ∀ c ∈ Double.pointed digits whole, IsNumeral c := by
  have hpart : ∀ part : List Char, part ⊆ digits →
      ∀ c ∈ (if part.isEmpty then ['0'] else part), IsNumeral c := by
    intro part hpart
    split
    · simpa using isNumeral_zero
    · exact fun c hc => h c (hpart hc)
  unfold Double.pointed
  refine List.forall_mem_append.mpr ⟨?_, List.forall_mem_cons.mpr ⟨isNumeral_point, ?_⟩⟩
  · exact hpart _ (List.take_subset ..)
  · exact hpart _ (List.drop_subset ..)

theorem isNumeral_of_mem_write (layout : Double.Layout) (d : Decimal) :
    ∀ c ∈ layout.write d, IsNumeral c := by
  have hzeros : ∀ n, ∀ c ∈ List.replicate n '0', IsNumeral c :=
    fun n c hc => List.eq_of_mem_replicate hc ▸ isNumeral_zero
  unfold Double.Layout.write
  extract_lets digits first mantissa
  have hdigits : ∀ c ∈ digits, IsNumeral c := isNumeral_of_mem_toDigits d.digits
  clear_value digits
  split
  · split
    · refine List.forall_mem_append.mpr ⟨List.forall_mem_append.mpr ⟨hdigits, hzeros _⟩, ?_⟩
      simpa using ⟨isNumeral_point, isNumeral_zero⟩
    · split
      · exact isNumeral_of_mem_pointed hdigits _
      · refine List.forall_mem_append.mpr ⟨?_, hdigits⟩
        refine List.forall_mem_cons.mpr ⟨isNumeral_zero, List.forall_mem_cons.mpr ?_⟩
        exact ⟨isNumeral_point, hzeros _⟩
  · have hmantissa : ∀ c ∈ mantissa, IsNumeral c := by
      unfold mantissa
      split
      · exact hdigits
      · exact hdigits
      · obtain ⟨hc, hrest⟩ := List.forall_mem_cons.mp hdigits
        exact List.forall_mem_cons.mpr ⟨hc, List.forall_mem_cons.mpr ⟨isNumeral_point, hrest⟩⟩
    refine List.forall_mem_append.mpr ⟨hmantissa, ?_⟩
    refine List.forall_mem_cons.mpr ⟨.inr (.inr (.inr (.inr rfl))), List.forall_mem_cons.mpr ?_⟩
    refine ⟨?_, isNumeral_of_mem_toDigits _⟩
    split
    · exact isNumeral_minus
    · exact .inr (.inr (.inl rfl))

/-- A number is written with such characters only. -/
theorem Number.isNumeral_of_mem_chars (n : Number) : ∀ c ∈ n.chars, IsNumeral c := by
  match n with
  | .integer (.ofNat n) => exact isNumeral_of_mem_toDigits n
  | .integer (.negSucc n) =>
    exact List.forall_mem_cons.mpr ⟨isNumeral_minus, isNumeral_of_mem_toDigits (n + 1)⟩
  | .double x =>
    have hmagnitude : ∀ c ∈ (if x.rank = 0 then ['0', '.', '0']
        else Double.Layout.plain.write (Double.shortest x.rank)), IsNumeral c := by
      split
      · simpa using ⟨isNumeral_zero, isNumeral_point, isNumeral_zero⟩
      · exact isNumeral_of_mem_write _ _
    rw [Number.chars, Double.chars]
    split
    · exact List.forall_mem_cons.mpr ⟨isNumeral_minus, hmagnitude⟩
    · exact hmagnitude

end Json

/-! ## 6. Numbers among other things -/

namespace Document

/-- Where a number is written, a number is read. -/
theorem read?_of_readNumber? {cs : List Char} {p : Document × List Char}
    (h : readNumber? cs = some p) (fuel depth : Nat) : read? (fuel + 1) depth cs = some p := by
  obtain ⟨c, rest, rfl, hc⟩ := readNumber?_head h
  have hspace : skipSpace (c :: rest) = c :: rest := by
    have hnumeral : Json.IsNumeral c := hc.imp_right .inl
    simp [skipSpace, Json.not_space_of_isNumeral hnumeral]
  have hne : ∀ d : Char, d.isDigit = false → d ≠ '-' → c ≠ d := by
    rintro d hdigit hminus rfl
    rcases hc with hc | hc
    · exact absurd (hdigit.symm.trans hc) (by decide)
    · exact hminus hc
  unfold read?
  rw [hspace]
  split
  case h_7 => exact h
  all_goals
    rename_i heq
    exact absurd (List.cons.inj heq).1 (hne _ (by decide) (by decide))

theorem atDepth_ne_number {depth : Nat} {d : Document} {n : Json.Number} (h : d ≠ .number n) :
    atDepth depth d ≠ .number n := by
  unfold atDepth
  split
  · exact h
  · nofun

/-- Only a number is read as a number. -/
theorem readNumber?_of_read? {fuel depth : Nat} {cs rest : List Char} {n : Json.Number}
    (h : read? fuel depth cs = some (.number n, rest)) :
    readNumber? (skipSpace cs) = some (.number n, rest) := by
  cases fuel with
  | zero => cases h
  | succ fuel =>
    unfold read? at h
    split at h
    · cases h
    · cases h
    · cases h
    · obtain ⟨⟨s?, left⟩, -, hs⟩ := Option.bind_eq_some_iff.mp h
      cases s? <;> cases hs
    · split at h
      · exact absurd (Prod.mk.inj (Option.some.inj h)).1 (atDepth_ne_number nofun)
      · obtain ⟨⟨items, left⟩, -, hitems⟩ := Option.bind_eq_some_iff.mp h
        exact absurd (Prod.mk.inj (Option.some.inj hitems)).1 (atDepth_ne_number nofun)
    · split at h
      · exact absurd (Prod.mk.inj (Option.some.inj h)).1 (atDepth_ne_number nofun)
      · obtain ⟨⟨members, left⟩, -, hmembers⟩ := Option.bind_eq_some_iff.mp h
        exact absurd (Prod.mk.inj (Option.some.inj hmembers)).1 (atDepth_ne_number nofun)
    · exact h

theorem skipSpace_append {spaces : List Char} (h : ∀ c ∈ spaces, isSpace c = true)
    (cs : List Char) : skipSpace (spaces ++ cs) = skipSpace cs :=
  List.dropWhile_append_of_pos h

theorem skipSpace_of_head {c : Char} {cs : List Char} (h : isSpace c = false) :
    skipSpace (c :: cs) = c :: cs := by
  simp [skipSpace, h]

theorem ofChars?_eq_some_iff {cs : List Char} {d : Document} :
    ofChars? cs = some d ↔
      ∃ left, read? (2 * cs.length + 2) 0 cs = some (d, left) ∧ skipSpace left = [] := by
  simp only [ofChars?, Option.bind_eq_bind, Option.bind_eq_some_iff, guard]
  constructor
  · rintro ⟨⟨e, left⟩, hread, ⟨⟩, hleft, he⟩
    obtain rfl := Option.some.inj he
    refine ⟨left, hread, ?_⟩
    split at hleft
    · rename_i hempty
      exact List.isEmpty_iff.mp hempty
    · cases hleft
  · rintro ⟨left, hread, hleft⟩
    exact ⟨(d, left), hread, (), by simp [hleft], rfl⟩

end Document

namespace Json

/-- A number that is read back from its text. -/
def Number.Survives (n : Number) : Prop := ofText? n.text = some (number n)

/-- **Every integer that fits survives.** -/
theorem Number.survives_integer {n : Int} (h : Number.fits n) : (Number.integer n).Survives := by
  have hread := Document.read?_of_readNumber? (Document.readNumber?_integer h)
    (2 * (Number.integer n).chars.length + 1) 0
  have hdocument : Document.ofChars? (Number.integer n).chars = some (.number (.integer n)) :=
    Document.ofChars?_eq_some_iff.mpr ⟨[], hread, rfl⟩
  rw [Survives, ofText?, Document.ofText?, Number.text, String.toList_ofList, hdocument]
  rfl

/-- **A number that survives is read wherever it stands.** -/
theorem Number.Survives.readNumber? {n : Number} (h : n.Survives) {rest : List Char}
    (hrest : Document.Stops rest) :
    Document.readNumber? (n.chars ++ rest) = some (.number n, rest) := by
  have hspace : ∀ c ∈ n.chars, Document.isSpace c = false :=
    fun c hc => not_space_of_isNumeral (n.isNumeral_of_mem_chars c hc)
  rw [Survives, ofText?, Document.ofText?, Number.text, String.toList_ofList] at h
  obtain ⟨d, hd, hvalue⟩ := Option.bind_eq_some_iff.mp h
  obtain ⟨left, hread, hleft⟩ := Document.ofChars?_eq_some_iff.mp hd
  obtain rfl : d = .number n := by
    cases d <;> simp_all [Document.value?]
  have hnumber := Document.readNumber?_of_read? hread
  have hskip : Document.skipSpace n.chars = n.chars := by
    cases hchars : n.chars with
    | nil => rfl
    | cons c cs => exact Document.skipSpace_of_head (hspace c (by simp [hchars]))
  rw [hskip] at hnumber
  obtain ⟨taken, hchars, htaken⟩ := Document.takes_readNumber? _ _ _ hnumber
  -- what is left is blank, and no space is among the characters
  have hnil : left = [] := by
    cases left with
    | nil => rfl
    | cons c cs =>
      rw [Document.skipSpace_of_head (hspace c (by simp [hchars]))] at hleft
      cases hleft
  rw [hchars, hnil, List.append_nil]
  exact htaken rest (.inr hrest)

end Json

end QuotaBoard
