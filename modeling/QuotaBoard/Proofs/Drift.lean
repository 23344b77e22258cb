import Mathlib.Data.List.Pairwise
import Mathlib.Logic.Relation
import QuotaBoard.Proofs.Numerals

/-!
# Changes of schema that nothing notices

A vendor respells a key, or sends a number as a text.  `Drift` is a way in which a value may change
in one step; a `Layout` says which fields of an object are read and how the value of each may
change, and `Layout.Step` is one change of such an object: a key respelled, or a change inside a
field.  `Variants` are the values that arise from each other by any number of changes.

A function that has the same result before and after each change `Absorbs` the drift, and then it
has the same result for all variants (`Absorbs.eq_of_variants`).  What is shown here once, for any
layout, is that looking up a field absorbs the steps of the layout if the reader absorbs the drift
of the field (`Layout.absorbs_probe?`); so a function that only looks up fields absorbs what its
readers absorb, however deep the fields lie.
-/

namespace QuotaBoard

namespace Json

variable {α : Type} {key other : String}

/-! ## 1. Members -/

theorem lookup_cons_ite (k key : String) (v : α) (members : List (String × α)) :
    ((k, v) :: members).lookup key = if key = k then some v else members.lookup key := by
  by_cases h : key = k
  · simp [h]
  · have hbeq : (key == k) = false := beq_false_of_ne h
    simp [List.lookup_cons, hbeq, h]

theorem lookup_insertMember_self (key : String) (value : α) (members : List (String × α)) :
    (insertMember key value members).lookup key = some value := by
  induction members with
  | nil => simp [insertMember]
  | cons m rest ih =>
    obtain ⟨k, v⟩ := m
    unfold insertMember
    split
    · simp
    · split
      · simp
      · rename_i hne
        rw [lookup_cons_ite, if_neg hne, ih]

theorem lookup_insertMember_of_ne (h : other ≠ key) (value : α) (members : List (String × α)) :
    (insertMember key value members).lookup other = members.lookup other := by
  induction members with
  | nil => rw [insertMember, lookup_cons_ite, if_neg h]
  | cons m rest ih =>
    obtain ⟨k, v⟩ := m
    unfold insertMember
    split
    · rw [lookup_cons_ite, if_neg h]
    · split
      · rename_i hk
        rw [lookup_cons_ite, if_neg h, lookup_cons_ite, if_neg (hk ▸ h)]
      · rw [lookup_cons_ite, ih, lookup_cons_ite]

theorem lookup_eraseMember (key other : String) (members : List (String × α)) :
    (eraseMember key members).lookup other =
      if other = key then none else members.lookup other := by
  unfold eraseMember
  induction members with
  | nil => simp
  | cons m rest ih =>
    obtain ⟨k, v⟩ := m
    by_cases hk : k = key
    · rw [List.filter_cons_of_neg (by simp [hk]), ih, lookup_cons_ite, hk]
      split <;> rfl
    · rw [List.filter_cons_of_pos (by simp [hk]), lookup_cons_ite, ih, lookup_cons_ite]
      by_cases hother : other = k
      · simp [hother, hk]
      · simp [hother]

/-- A value that is replaced where it stands changes what is read under its own key at most. -/
theorem bind_lookup_replace {β : Type} {read : α → Option β} {v v' : α}
    (h : other = key → read v = read v') (before after : List (String × α)) :
    ((before ++ (key, v) :: after).lookup other).bind read =
      ((before ++ (key, v') :: after).lookup other).bind read := by
  induction before with
  | nil =>
    simp only [List.nil_append, lookup_cons_ite]
    split
    · rename_i hkey
      simpa using h hkey
    · rfl
  | cons m rest ih =>
    obtain ⟨k, w⟩ := m
    simp only [List.cons_append, lookup_cons_ite]
    split
    · rfl
    · exact ih

/-! ## 2. Look-ups under both spellings -/

/-- The two spellings of a key, which may be the same. -/
def spellings (key : String) : List String := [key, camelCase key]

theorem mem_spellings_self (key : String) : key ∈ spellings key := List.mem_cons_self

theorem camelCase_mem_spellings (key : String) : camelCase key ∈ spellings key := by
  simp [spellings]

/-- A key has no third spelling. -/
theorem eq_of_mem_spellings {a b s : String} (ha : a ∈ spellings key) (hb : b ∈ spellings key)
    (hne : b ≠ a) (hs : s ∈ spellings key) (h : s ≠ a) : s = b := by
  simp only [spellings, List.mem_cons, List.not_mem_nil, or_false] at ha hb hs
  rcases ha with rfl | rfl <;> rcases hb with rfl | rfl <;> rcases hs with rfl | rfl <;>
    first | rfl | exact absurd rfl h | exact absurd rfl hne

/-- A look-up depends only on what is read under the two spellings. -/
theorem probe?_congr {v v' : Json} {read : Json → Option α}
    (h : ∀ s ∈ spellings key, (v.get? s).bind read = (v'.get? s).bind read) :
    v.probe? key read = v'.probe? key read := by
  rw [probe?, probe?, h key (mem_spellings_self key),
    h (camelCase key) (camelCase_mem_spellings key)]

theorem map_probe? {β : Type} (v : Json) (key : String) (read : Json → Option α) (f : α → β) :
    (v.probe? key read).map f = v.probe? key fun field => (read field).map f := by
  rw [probe?, probe?, Option.map_or, Option.map_bind, Option.map_bind]
  rfl

/-- **A field that is there under one spelling only is read.** -/
theorem probe?_of_only {v w : Json} {read : Json → Option α} {spelled : String}
    (hspelled : spelled ∈ spellings key) (hw : v.get? spelled = some w)
    (honly : ∀ s ∈ spellings key, s ≠ spelled → v.get? s = none) :
    v.probe? key read = read w := by
  have hbind : ∀ s ∈ spellings key,
      (v.get? s).bind read = if s = spelled then read w else none := by
    intro s hs
    split
    · rename_i hs'
      rw [hs', hw, Option.bind_some]
    · rename_i hs'
      rw [honly s hs hs', Option.bind_none]
  rw [probe?, hbind key (mem_spellings_self key), hbind _ (camelCase_mem_spellings key)]
  simp only [spellings, List.mem_cons, List.not_mem_nil, or_false] at hspelled
  rcases hspelled with rfl | rfl
  · rw [if_pos rfl]
    split <;> simp
  · rw [if_pos rfl]
    split <;> simp

end Json

/-! ## 3. Changes that a function absorbs -/

/-- A way in which a value may change in one step. -/
abbrev Drift := Json → Json → Prop

variable {α β : Type} {drift : Drift}

/-- The value stays as it is, as a flag does: the words for flags are not the texts of numbers. -/
def Drift.Still : Drift := fun _ _ => False

/-- A whole number becomes the text of its digits. -/
inductive Drift.Digits : Drift where
  | spelled (n : Int) (h : n.natAbs ≤ Nat.pow 2 53) :
    Digits (.number (.integer n)) (.string (toString n))

/-- The function has the same result before and after each change. -/
def Absorbs (drift : Drift) (f : Json → α) : Prop := ∀ v v', drift v v' → f v = f v'

/-- The values that arise from each other by any number of changes. -/
def Variants (drift : Drift) : Drift := Relation.EqvGen drift

namespace Absorbs

/-- **What absorbs each change absorbs any number of them.** -/
theorem eq_of_variants {f : Json → α} (h : Absorbs drift f) {v v' : Json}
    (hv : Variants drift v v') : f v = f v' := by
  induction hv with
  | rel v v' hstep => exact h v v' hstep
  | refl v => rfl
  | symm v v' _ ih => exact ih.symm
  | trans v v' v'' _ _ ih ih' => exact ih.trans ih'

theorem comp {f : Json → α} (h : Absorbs drift f) (g : α → β) : Absorbs drift fun v => g (f v) :=
  fun v v' hstep => congrArg g (h v v' hstep)

theorem still (f : Json → α) : Absorbs .Still f := fun _ _ h => nomatch h

/-! ### Readers of digits -/

theorem asText? : Absorbs .Digits Json.asText? := by
  rintro _ _ ⟨n, -⟩
  exact (Json.asText?_toString n).symm

theorem asIndex? : Absorbs .Digits Json.asIndex? := by
  rintro _ _ ⟨n, -⟩
  exact (Json.asIndex?_toString n).symm

theorem asNumber? : Absorbs .Digits Json.asNumber? := by
  rintro _ _ ⟨n, h⟩
  exact (Json.asNumber?_toString (Nat.le_trans h (by decide))).symm

theorem asFraction? : Absorbs .Digits Json.asFraction? := asNumber?.comp _

theorem asPercent? : Absorbs .Digits Json.asPercent? := asNumber?.comp _

theorem asPlan? : Absorbs .Digits Json.asPlan? := asText?.comp _

theorem claims? : Absorbs .Digits IdToken.claims? := by
  rintro _ _ ⟨n, -⟩
  exact (IdToken.claims?_toString n).symm

theorem isNull : Absorbs .Digits Json.isNull := by
  rintro _ _ ⟨n, -⟩
  rfl

end Absorbs

/-- A change of one of the items of an array, or of a number that stands in its place. -/
inductive Drift.Items (item : Drift) : Drift where
  | digits {v v' : Json} (h : Digits v v') : Items item v v'
  | inside {before after : List Json} {v v' : Json} (h : item v v') :
    Items item (.array (before ++ v :: after)) (.array (before ++ v' :: after))

/-- A change of one of the members of an object, under whatever key it stands. -/
inductive Drift.Members (value : Drift) : Drift where
  | inside {key : String} {before after : List (String × Json)} {v v' : Json} (h : value v v') :
    Members value (.object (before ++ (key, v) :: after)) (.object (before ++ (key, v') :: after))

theorem Absorbs.isNull_items (item : Drift) : Absorbs (.Items item) Json.isNull := by
  rintro _ _ (⟨⟨n, -⟩⟩ | _) <;> rfl

theorem Absorbs.filterMap_items {item : Drift} {f : Json → Option α} (h : Absorbs item f) :
    Absorbs (.Items item) fun v => v.items?.map (·.filterMap f) := by
  rintro _ _ (⟨⟨n, -⟩⟩ | hchange)
  · rfl
  · simp [Json.items?, List.filterMap_cons, h _ _ hchange]

theorem Absorbs.filterMap_members {value : Drift} {f : String → Json → Option α}
    (h : ∀ key, Absorbs value (f key)) :
    Absorbs (.Members value) fun v => v.members?.map (·.filterMap fun (key, v) => f key v) := by
  rintro _ _ ⟨hchange⟩
  simp [Json.members?, List.filterMap_cons, h _ _ _ hchange]

/-! ## 4. Layouts -/

/-- No spelling of the one key is a spelling of the other. -/
def Apart (key key' : String) : Prop := ∀ s ∈ Json.spellings key, s ∉ Json.spellings key'

instance (key key' : String) : Decidable (Apart key key') :=
  inferInstanceAs (Decidable (∀ s ∈ Json.spellings key, s ∉ Json.spellings key'))

/-- The fields of an object that are read, each with the way in which its value may change.  No
two of them share a spelling. -/
structure Layout where
  fields : List (String × Drift)
  apart : (fields.map (·.1)).Pairwise Apart

namespace Layout

/-- One change of an object of the layout. -/
inductive Step (l : Layout) : Drift where
  /-- A number stands where the object should be. -/
  | digits {v v' : Json} (h : Drift.Digits v v') : l.Step v v'
  /-- A field moves to the other spelling of its key, under which the object has none. -/
  | respelled {key old new : String} {drift : Drift} {members : List (String × Json)} {v : Json}
      (hkey : (key, drift) ∈ l.fields) (hold : old ∈ Json.spellings key)
      (hnew : new ∈ Json.spellings key) (hv : members.lookup old = some v)
      (habsent : members.lookup new = none) :
      l.Step (.object members) (.object (Json.insertMember new v (Json.eraseMember old members)))
  /-- The value of a field changes, under whichever spelling it stands. -/
  | inside {key spelled : String} {drift : Drift} {before after : List (String × Json)}
      {v v' : Json} (hkey : (key, drift) ∈ l.fields) (hspelled : spelled ∈ Json.spellings key)
      (h : drift v v') :
      l.Step (.object (before ++ (spelled, v) :: after)) (.object (before ++ (spelled, v') :: after))

variable {l : Layout} {key : String}

theorem apart_of_ne {field field' : String × Drift} (h : field ∈ l.fields) (h' : field' ∈ l.fields)
    (hne : field ≠ field') : Apart field.1 field'.1 := by
  have : Std.Symm fun f f' : String × Drift => Apart f.1 f'.1 :=
    ⟨fun f f' hff s hs hs' => hff s hs' hs⟩
  exact (List.pairwise_map.mp l.apart).forall h h' hne

/-- **To look up a field absorbs the changes of the object**, if the reader absorbs those of the
field. -/
theorem absorbs_probe? (hkey : (key, drift) ∈ l.fields) {read : Json → Option α}
    (hread : Absorbs drift read) : Absorbs l.Step (·.probe? key read) := by
  intro v v' hstep
  cases hstep with
  | digits h =>
    obtain ⟨n, -⟩ := h
    rfl
  | @respelled key' old new drift' members v hkey' hold hnew hv habsent =>
    have hne : new ≠ old := by
      rintro rfl
      rw [hv] at habsent
      cases habsent
    by_cases hsame : (key, drift) = (key', drift')
    · -- the field that is looked up is the one that moves
      obtain ⟨rfl, rfl⟩ := Prod.mk.inj hsame
      have hbefore : (Json.object members).probe? key read = read v := by
        refine Json.probe?_of_only hold hv fun s hs hs' => ?_
        rw [Json.eq_of_mem_spellings hold hnew hne hs hs']
        exact habsent
      have hafter : (Json.object (Json.insertMember new v (Json.eraseMember old members))).probe?
          key read = read v := by
        refine Json.probe?_of_only hnew (Json.lookup_insertMember_self new v _) fun s hs hs' => ?_
        obtain rfl := Json.eq_of_mem_spellings hnew hold hne.symm hs hs'
        change (Json.insertMember new v (Json.eraseMember s members)).lookup s = none
        rw [Json.lookup_insertMember_of_ne hs', Json.lookup_eraseMember, if_pos rfl]
      exact hbefore.trans hafter.symm
    · -- another field moves, between spellings that this one does not have
      have hapart := apart_of_ne hkey hkey' hsame
      refine Json.probe?_congr fun s hs => ?_
      have hnew' : s ≠ new := fun h => hapart s hs (h ▸ hnew)
      have hold' : s ≠ old := fun h => hapart s hs (h ▸ hold)
      have hkept : (Json.insertMember new v (Json.eraseMember old members)).lookup s =
          members.lookup s := by
        rw [Json.lookup_insertMember_of_ne hnew', Json.lookup_eraseMember, if_neg hold']
      exact congrArg (Option.bind · read) hkept.symm
  | @inside key' spelled drift' before after v v' hkey' hspelled h =>
    refine Json.probe?_congr fun s hs => Json.bind_lookup_replace (fun hs' => ?_) before after
    by_cases hsame : (key, drift) = (key', drift')
    · obtain ⟨rfl, rfl⟩ := Prod.mk.inj hsame
      exact hread v v' h
    · exact absurd hspelled (hs' ▸ apart_of_ne hkey hkey' hsame s hs)

/-! ### Readers of fields -/

theorem absorbs_textAt? (hkey : (key, .Digits) ∈ l.fields) : Absorbs l.Step (·.textAt? key) :=
  absorbs_probe? hkey .asText?

theorem absorbs_numberAt? (hkey : (key, .Digits) ∈ l.fields) : Absorbs l.Step (·.numberAt? key) :=
  absorbs_probe? hkey .asNumber?

theorem absorbs_fractionAt? (hkey : (key, .Digits) ∈ l.fields) :
    Absorbs l.Step (·.fractionAt? key) :=
  absorbs_probe? hkey .asFraction?

theorem absorbs_percentAt? (hkey : (key, .Digits) ∈ l.fields) :
    Absorbs l.Step (·.percentAt? key) :=
  absorbs_probe? hkey .asPercent?

theorem absorbs_flagAt? (hkey : (key, .Still) ∈ l.fields) : Absorbs l.Step (·.flagAt? key) :=
  absorbs_probe? hkey (.still _)

/-- A change of an object leaves an object. -/
theorem absorbs_isObject (l : Layout) : Absorbs l.Step Json.isObject := by
  intro v v' hstep
  cases hstep with
  | digits h => cases h; rfl
  | respelled | inside => rfl

/-- **What is made of an object inside the object**, if making it absorbs the changes there. -/
theorem absorbs_objectAt? {inner : Layout} (hkey : (key, inner.Step) ∈ l.fields) {f : Json → α}
    (hf : Absorbs inner.Step f) : Absorbs l.Step fun v => (v.objectAt? key).map f := by
  have hread : Absorbs inner.Step fun field =>
      (if field.isObject then some field else none).map f := by
    intro v v' hstep
    simp only [inner.absorbs_isObject v v' hstep, apply_ite (Option.map f), Option.map_some,
      hf v v' hstep]
  simp only [Json.objectAt?, Json.map_probe?]
  exact absorbs_probe? hkey hread

/-- What may come of an object inside the object. -/
theorem absorbs_bind_objectAt? {inner : Layout} (hkey : (key, inner.Step) ∈ l.fields)
    {f : Json → Option α} (hf : Absorbs inner.Step f) :
    Absorbs l.Step fun v => (v.objectAt? key).bind f := by
  intro v v' hstep
  have hbind := congrArg (Option.bind · id) (absorbs_objectAt? hkey hf v v' hstep)
  simpa only [Option.bind_map, Function.id_comp] using hbind

/-- What may come of a field that is there. -/
theorem absorbs_bind_present? (hkey : (key, drift) ∈ l.fields) (hnull : Absorbs drift Json.isNull)
    {f : Json → Option α} (hf : Absorbs drift f) :
    Absorbs l.Step fun v => (v.present? key).bind f := by
  have hread : Absorbs drift fun field => (if field.isNull then none else some field).map f := by
    intro v v' hstep
    simp only [hnull v v' hstep, apply_ite (Option.map f), Option.map_some, hf v v' hstep]
  intro v v' hstep
  have hbind := congrArg (Option.bind · id) (absorbs_probe? hkey hread v v' hstep)
  simpa only [Json.present?, ← Json.map_probe?, Option.bind_map, Function.id_comp] using hbind

/-- What comes of an object and of two objects inside it, those that are there. -/
theorem absorbs_parts {first second : Layout} {firstKey secondKey : String}
    (hfirst : (firstKey, first.Step) ∈ l.fields) (hsecond : (secondKey, second.Step) ∈ l.fields)
    {f : Json → Option α} (hf : Absorbs l.Step f) (hf₁ : Absorbs first.Step f)
    (hf₂ : Absorbs second.Step f) :
    Absorbs l.Step fun v =>
      (v :: [v.objectAt? firstKey, v.objectAt? secondKey].filterMap id).filterMap f := by
  have hparts : ∀ (v : Json) (a b : Option Json),
      (v :: [a, b].filterMap id).filterMap f = [f v, a.bind f, b.bind f].filterMap id := by
    intro v a b
    cases a <;> cases b <;> simp [List.filterMap_cons]
  intro v v' h
  have hown : f v = f v' := hf v v' h
  have hone : (v.objectAt? firstKey).bind f = (v'.objectAt? firstKey).bind f :=
    absorbs_bind_objectAt? hfirst hf₁ v v' h
  have htwo : (v.objectAt? secondKey).bind f = (v'.objectAt? secondKey).bind f :=
    absorbs_bind_objectAt? hsecond hf₂ v v' h
  simp only [hparts, hown, hone, htwo]

end Layout

end QuotaBoard
