import QuotaBoard.Proofs.Drift
import QuotaBoard.Proofs.ReadBack

/-!
# What is read from a text

A text may give its keys in any order, repeat them, and nest as deeply as it likes; the value that
it denotes has its keys in order, each of them once, and is nested no deeper than the limit
(`Json.canonical_of_ofText?`).  So such a value may be written and read again, up to its numbers.

An object in key order is determined by what is found under each key (`Ascending.ext`), which is
how two ways of changing an object are compared.
-/

namespace QuotaBoard

namespace Json

variable {α : Type} {key : String} {members : List (String × α)}

/-! ## 1. Members in key order -/

theorem mem_insertMember {m : String × α} {value : α} (h : m ∈ insertMember key value members) :
    m = (key, value) ∨ m ∈ members := by
  induction members with
  | nil => exact .inl (List.mem_singleton.mp h)
  | cons n rest ih =>
    unfold insertMember at h
    split at h
    · exact List.mem_cons.mp h
    · split at h
      · exact (List.mem_cons.mp h).imp_right (List.mem_cons_of_mem n)
      · rcases List.mem_cons.mp h with rfl | h
        · exact .inr List.mem_cons_self
        · exact (ih h).imp_right (List.mem_cons_of_mem n)

theorem Ascending.insertMember (h : Ascending members) (key : String) (value : α) :
    Ascending (insertMember key value members) := by
  induction members with
  | nil => exact List.pairwise_singleton ..
  | cons m rest ih =>
    obtain ⟨k, v⟩ := m
    obtain ⟨hfirst, hrest⟩ := List.pairwise_cons.mp h
    unfold Json.insertMember
    split
    · rename_i hlt
      refine List.pairwise_cons.mpr ⟨List.forall_mem_cons.mpr ⟨hlt, fun n hn => ?_⟩, h⟩
      exact String.lt_trans hlt (hfirst n hn)
    · rename_i hnlt
      split
      · rename_i heq
        exact List.pairwise_cons.mpr ⟨fun n hn => heq ▸ hfirst n hn, hrest⟩
      · rename_i hne
        refine List.pairwise_cons.mpr ⟨fun n hn => ?_, ih hrest⟩
        rcases mem_insertMember hn with rfl | hn
        · exact Std.lt_of_le_of_ne (String.not_lt.mp hnlt) (Ne.symm hne)
        · exact hfirst n hn

theorem Ascending.eraseMember (h : Ascending members) (key : String) :
    Ascending (eraseMember key members) :=
  List.Pairwise.filter _ h

theorem ascending_sortMembers (members : List (String × α)) : Ascending (sortMembers members) := by
  have hfold : ∀ rest before : List (String × α), Ascending before →
      Ascending (rest.foldl (fun sorted m => insertMember m.1 m.2 sorted) before) := by
    intro rest
    induction rest with
    | nil => exact fun before h => h
    | cons m rest ih => exact fun before h => ih _ (h.insertMember m.1 m.2)
  exact hfold members [] .nil

theorem mem_sortMembers {m : String × α} (h : m ∈ sortMembers members) : m ∈ members := by
  have hfold : ∀ rest before : List (String × α),
      m ∈ rest.foldl (fun sorted m => insertMember m.1 m.2 sorted) before →
        m ∈ before ∨ m ∈ rest := by
    intro rest
    induction rest with
    | nil => exact fun before h => .inl h
    | cons n rest ih =>
      intro before h
      rcases ih _ h with h | h
      · rcases mem_insertMember h with rfl | h
        · exact .inr List.mem_cons_self
        · exact .inl h
      · exact .inr (List.mem_cons_of_mem n h)
  exact (hfold members [] h).resolve_left List.not_mem_nil

/-- A member in key order is the one that is found under its key. -/
theorem Ascending.lookup_eq_some_iff (h : Ascending members) {value : α} :
    members.lookup key = some value ↔ (key, value) ∈ members := by
  induction members with
  | nil => simp
  | cons m rest ih =>
    obtain ⟨k, v⟩ := m
    obtain ⟨hfirst, hrest⟩ := List.pairwise_cons.mp h
    rw [lookup_cons_ite, List.mem_cons]
    split
    · rename_i heq
      subst heq
      have hmissing : (key, value) ∉ rest := fun hmem => String.lt_irrefl key (hfirst _ hmem)
      simp [hmissing, eq_comm]
    · rename_i hne
      simp [hne, ih hrest]

/-- Members in key order are known by what is found under each key. -/
theorem Ascending.ext {others : List (String × α)} (h : Ascending members)
    (hothers : Ascending others) (heq : ∀ key, members.lookup key = others.lookup key) :
    members = others := by
  have hnodup : ∀ members : List (String × α), Ascending members → members.Nodup :=
    fun members h => h.imp fun {m n} hlt (he : m = n) => String.lt_irrefl n.1 (he ▸ hlt)
  have hperm : members.Perm others := by
    refine (List.perm_ext_iff_of_nodup (hnodup _ h) (hnodup _ hothers)).mpr fun (key, value) => ?_
    rw [← h.lookup_eq_some_iff, heq, hothers.lookup_eq_some_iff]
  refine hperm.eq_of_pairwise (fun m n _ _ hmn hnm => ?_) h hothers
  exact absurd hnm (String.lt_asymm hmn)

end Json

/-! ## 2. Values that were read -/

namespace Document

theorem exists_value?_of_mem {items : List Document} {values : List Json} {v : Json}
    (h : values? items = some values) (hv : v ∈ values) : ∃ d ∈ items, d.value? = some v := by
  induction items generalizing values with
  | nil =>
    obtain rfl := Option.some.inj h
    cases hv
  | cons d items ih =>
    simp only [values?, Option.bind_eq_bind, Option.bind_eq_some_iff] at h
    obtain ⟨w, hw, rest, hrest, hvalues⟩ := h
    obtain rfl := Option.some.inj hvalues
    rcases List.mem_cons.mp hv with rfl | hv
    · exact ⟨d, List.mem_cons_self, hw⟩
    · obtain ⟨e, he, hvalue⟩ := ih hrest hv
      exact ⟨e, List.mem_cons_of_mem d he, hvalue⟩

theorem exists_memberValue?_of_mem {members : List (Option String × Document)}
    {values : List (String × Json)} {m : String × Json} (h : memberValues? members = some values)
    (hm : m ∈ values) : ∃ n ∈ members, n.2.value? = some m.2 := by
  induction members generalizing values with
  | nil =>
    obtain rfl := Option.some.inj h
    cases hm
  | cons n members ih =>
    obtain ⟨k?, d⟩ := n
    simp only [memberValues?, Option.bind_eq_bind, Option.bind_eq_some_iff] at h
    obtain ⟨k, -, w, hw, rest, hrest, hvalues⟩ := h
    obtain rfl := Option.some.inj hvalues
    rcases List.mem_cons.mp hm with rfl | hm
    · exact ⟨(k?, d), List.mem_cons_self, hw⟩
    · obtain ⟨e, he, hvalue⟩ := ih hrest hm
      exact ⟨e, List.mem_cons_of_mem _ he, hvalue⟩

/-- A document inside `depth` arrays and objects denotes only values in which keys are in order,
integers fit, and no more is nested than the limit leaves. -/
def Sound (depth : Nat) (d : Document) : Prop :=
  ∀ v, d.value? = some v → v.Canonical ∧ v.NestsUpTo (nestingLimit - depth)

variable {fuel depth : Nat} {cs rest : List Char}

theorem sound_unreadable : Sound depth .unreadable := nofun

theorem sound_null : Sound depth .null := by
  rintro v ⟨⟩
  exact ⟨.null, .null _⟩

theorem sound_bool (b : Bool) : Sound depth (.bool b) := by
  rintro v ⟨⟩
  exact ⟨.bool b, .bool _ b⟩

theorem sound_string (s : String) : Sound depth (.string s) := by
  rintro v ⟨⟩
  exact ⟨.string s, .string _ s⟩

theorem sound_atDepth {d : Document} (h : depth < nestingLimit → Sound depth d) :
    Sound depth (atDepth depth d) := by
  unfold atDepth
  split
  · exact h ‹_›
  · exact sound_unreadable

theorem sound_number {d : Document} (h : readNumber? cs = some (d, rest)) : Sound depth d := by
  have hfits : ∀ negative whole fraction? exponent? n,
      numberOf? negative whole fraction? exponent? = some n → (Json.number n).Canonical := by
    intro negative whole fraction? exponent? n hn
    unfold numberOf? at hn
    extract_lets value signed at hn
    split at hn
    · rename_i hinteger
      obtain rfl := Option.some.inj hn
      exact .integer _ (of_decide_eq_true ((Bool.and_eq_true _ _).mp hinteger).2)
    · obtain ⟨x, -, rfl⟩ := Option.map_eq_some_iff.mp hn
      exact .double x
  rw [readNumber?_eq] at h
  simp only [Option.bind_eq_some_iff] at h
  obtain ⟨sign, -, whole, -, fraction, -, exponent, -, heq⟩ := h
  obtain rfl := (Prod.mk.inj (Option.some.inj heq)).1
  unfold ofParts
  split
  · rename_i n hn
    intro v hv
    obtain rfl := Option.some.inj hv
    exact ⟨hfits _ _ _ _ n hn, .number _ n⟩
  · exact sound_unreadable

theorem sound_array {items : List Document} (h : ∀ d ∈ items, Sound (depth + 1) d) :
    Sound depth (atDepth depth (.array items)) := by
  refine sound_atDepth fun hdepth v hv => ?_
  obtain ⟨values, hvalues, rfl⟩ := Option.map_eq_some_iff.mp hv
  have hall : ∀ v ∈ values, v.Canonical ∧ v.NestsUpTo (nestingLimit - (depth + 1)) := by
    intro v hv
    obtain ⟨d, hd, hvalue⟩ := exists_value?_of_mem hvalues hv
    exact h d hd v hvalue
  rw [show nestingLimit - depth = nestingLimit - (depth + 1) + 1 by omega]
  exact ⟨.array _ fun v hv => (hall v hv).1, .array fun v hv => (hall v hv).2⟩

theorem sound_object {members : List (Option String × Document)}
    (h : ∀ m ∈ members, Sound (depth + 1) m.2) :
    Sound depth (atDepth depth (.object members)) := by
  refine sound_atDepth fun hdepth v hv => ?_
  obtain ⟨values, hvalues, rfl⟩ := Option.map_eq_some_iff.mp hv
  have hall : ∀ m ∈ Json.sortMembers values,
      m.2.Canonical ∧ m.2.NestsUpTo (nestingLimit - (depth + 1)) := by
    intro m hm
    obtain ⟨n, hn, hvalue⟩ := exists_memberValue?_of_mem hvalues (Json.mem_sortMembers hm)
    exact h n hn m.2 hvalue
  rw [show nestingLimit - depth = nestingLimit - (depth + 1) + 1 by omega]
  exact ⟨.object _ (Json.ascending_sortMembers values) fun m hm => (hall m hm).1,
    .object fun m hm => (hall m hm).2⟩

/-- Whatever is read with some fuel is sound: one part for each reader. -/
structure ReadsSound (fuel : Nat) : Prop where
  value : ∀ {depth cs d rest}, read? fuel depth cs = some (d, rest) → Sound depth d
  items : ∀ {depth cs items rest},
    readItems? fuel depth cs = some (items, rest) → ∀ d ∈ items, Sound depth d
  members : ∀ {depth cs members rest},
    readMembers? fuel depth cs = some (members, rest) → ∀ m ∈ members, Sound depth m.2

theorem ReadsSound.value_succ (hfuel : ReadsSound fuel) {d : Document}
    (h : read? (fuel + 1) depth cs = some (d, rest)) : Sound depth d := by
  unfold read? at h
  split at h
  · cases h
    exact sound_null
  · cases h
    exact sound_bool true
  · cases h
    exact sound_bool false
  · simp only [Option.bind_eq_bind, Option.bind_eq_some_iff] at h
    obtain ⟨⟨s?, left⟩, -, hs⟩ := h
    cases s? with
    | none =>
      cases hs
      exact sound_unreadable
    | some s =>
      cases hs
      exact sound_string s
  · split at h
    · cases h
      exact sound_array (by simp)
    · simp only [Option.bind_eq_bind, Option.bind_eq_some_iff] at h
      obtain ⟨⟨items, left⟩, hread, heq⟩ := h
      cases heq
      exact sound_array (hfuel.items hread)
  · split at h
    · cases h
      exact sound_object (by simp)
    · simp only [Option.bind_eq_bind, Option.bind_eq_some_iff] at h
      obtain ⟨⟨members, left⟩, hread, heq⟩ := h
      cases heq
      exact sound_object (hfuel.members hread)
  · exact sound_number h

theorem ReadsSound.items_succ (hfuel : ReadsSound fuel) {items : List Document}
    (h : readItems? (fuel + 1) depth cs = some (items, rest)) : ∀ d ∈ items, Sound depth d := by
  unfold readItems? at h
  simp only [Option.bind_eq_bind, Option.bind_eq_some_iff] at h
  obtain ⟨⟨d, left⟩, hfirst, h⟩ := h
  have hd : Sound depth d := hfuel.value hfirst
  dsimp only at h
  split at h
  · simp only [Option.bind_eq_some_iff] at h
    obtain ⟨⟨more, left⟩, hmore, heq⟩ := h
    cases heq
    exact List.forall_mem_cons.mpr ⟨hd, hfuel.items hmore⟩
  · cases h
    exact List.forall_mem_singleton.mpr hd
  · cases h

theorem ReadsSound.members_succ (hfuel : ReadsSound fuel)
    {members : List (Option String × Document)}
    (h : readMembers? (fuel + 1) depth cs = some (members, rest)) :
    ∀ m ∈ members, Sound depth m.2 := by
  unfold readMembers? at h
  split at h
  · simp only [Option.bind_eq_bind, Option.bind_eq_some_iff] at h
    obtain ⟨⟨key, left⟩, -, h⟩ := h
    dsimp only at h
    split at h
    · simp only [Option.bind_eq_some_iff] at h
      obtain ⟨⟨d, left⟩, hfirst, h⟩ := h
      have hd : Sound depth d := hfuel.value hfirst
      dsimp only at h
      split at h
      · simp only [Option.bind_eq_some_iff] at h
        obtain ⟨⟨more, left⟩, hmore, heq⟩ := h
        cases heq
        exact List.forall_mem_cons.mpr ⟨hd, hfuel.members hmore⟩
      · cases h
        exact List.forall_mem_singleton.mpr hd
      · cases h
    · cases h
  · cases h

theorem readsSound (fuel : Nat) : ReadsSound fuel := by
  induction fuel with
  | zero => exact ⟨nofun, nofun, nofun⟩
  | succ fuel ih => exact ⟨ih.value_succ, ih.items_succ, ih.members_succ⟩

end Document

/-- **What a text denotes has its keys in order and is nested no deeper than the limit.** -/
theorem Json.canonical_of_ofText? {s : String} {v : Json} (h : ofText? s = some v) :
    v.Canonical ∧ v.NestsUpTo Document.nestingLimit := by
  obtain ⟨d, hd, hv⟩ := Option.bind_eq_some_iff.mp h
  obtain ⟨left, hread, -⟩ := Document.ofChars?_eq_some_iff.mp hd
  exact (Document.readsSound _).value hread v hv

end QuotaBoard
