import QuotaBoard.Proofs.NumberText

/-!
# What is written is read back

The two layouts of a value differ in the space between its parts and in nothing else, and the reader
passes over space.  `Spacing` says where space may be put and `Spacing.write` writes a value with
it; both layouts are texts of this kind (`tight_write`, `indented_write`), so they are read back for
the same reason (`ofText?_write`).

A value is read in the middle of a text, at a depth, with some fuel.  `Spacing.Reads` says that this
works whatever follows, with fuel for twice the text that is left.  It is shown for a leaf by
looking at its text, and for an array and an object from what they hold; the induction is on the
value (`reads_of_canonical`).  The value must not be nested too deeply (`NestsUpTo`), and its
numbers must be such as survive (`HasNumber`).
-/

namespace QuotaBoard

namespace Document

/-! ## 1. Strings -/

theorem hexValue?_hexDigit : ∀ n < 16, hexValue? (Json.hexDigit n) = some n := by
  decide

/-- The piece that a character is written as. -/
def pieceOf (c : Char) : Piece :=
  if c.toNat < 32 ∧ c ≠ '\x08' ∧ c ≠ '\x0c' ∧ c ≠ '\n' ∧ c ≠ '\r' ∧ c ≠ '\t' then .unit c.toNat
  else .char c

/-- Two characters are read as the one that they stand for. -/
theorem readPieces?_escape {e c : Char} (h : escape? e = some c) (cs : List Char) :
    readPieces? ('\\' :: e :: cs) = (readPieces? cs).map fun p => (.char c :: p.1, p.2) := by
  have hu : e ≠ 'u' := by
    rintro rfl
    cases h
  rw [readPieces?]
  · rw [h]
    cases readPieces? cs <;> rfl
  · rintro a b c d rest rfl
    exact absurd rfl hu

theorem readPieces?_unit {a b c d : Char} {n : Nat} (h : unit? a b c d = some n)
    (cs : List Char) :
    readPieces? ('\\' :: 'u' :: a :: b :: c :: d :: cs) =
      (readPieces? cs).map fun p => (.unit n :: p.1, p.2) := by
  rw [readPieces?, h]
  cases readPieces? cs <;> rfl

theorem readPieces?_plain {c : Char} (hquote : c ≠ '"') (hslash : c ≠ '\\')
    (hcontrol : 32 ≤ c.toNat) (cs : List Char) :
    readPieces? (c :: cs) = (readPieces? cs).map fun p => (.char c :: p.1, p.2) := by
  have hplain : (decide (32 ≤ c.toNat) && c != '\\') = true := by
    simp [hcontrol, hslash]
  rw [readPieces?, guard, if_pos hplain]
  · cases readPieces? cs <;> rfl
  · simp [hquote]
  · simp [hslash]
  · simp [hslash]

theorem unit?_control {n : Nat} (h : n < 32) :
    unit? '0' '0' (Json.hexDigit (n / 16)) (Json.hexDigit (n % 16)) = some n := by
  have hzero : hexValue? '0' = some 0 := by decide
  simp only [unit?, hzero, hexValue?_hexDigit (n / 16) (by omega),
    hexValue?_hexDigit (n % 16) (by omega), Option.bind_eq_bind, Option.bind_some]
  congr 1
  omega

/-- A character is read as it was written. -/
theorem readPieces?_escaped (c : Char) (cs : List Char) :
    readPieces? (Json.escaped c ++ cs) =
      (readPieces? cs).map fun p => (pieceOf c :: p.1, p.2) := by
  -- seven characters have an escape of two characters, and are pieces as they are
  have hescape : ∀ d e, Json.escaped d = ['\\', e] → escape? e = some d → pieceOf d = .char d →
      readPieces? (Json.escaped d ++ cs) =
        (readPieces? cs).map fun p => (pieceOf d :: p.1, p.2) := by
    intro d e hd he hpiece
    rw [hd, hpiece]
    exact readPieces?_escape he cs
  by_cases hshort : c = '"' ∨ c = '\\' ∨ c = '\x08' ∨ c = '\x0c' ∨ c = '\n' ∨ c = '\r' ∨ c = '\t'
  · rcases hshort with rfl | rfl | rfl | rfl | rfl | rfl | rfl
    · exact hescape '"' '"' rfl rfl rfl
    · exact hescape '\\' '\\' rfl rfl rfl
    · exact hescape '\x08' 'b' rfl rfl rfl
    · exact hescape '\x0c' 'f' rfl rfl rfl
    · exact hescape '\n' 'n' rfl rfl rfl
    · exact hescape '\r' 'r' rfl rfl rfl
    · exact hescape '\t' 't' rfl rfl rfl
  simp only [not_or] at hshort
  obtain ⟨hquote, hslash, hbackspace, hfeed, hline, hreturn, htab⟩ := hshort
  rw [Json.escaped, if_neg hquote, if_neg hslash, if_neg hbackspace, if_neg hfeed, if_neg hline,
    if_neg hreturn, if_neg htab, pieceOf]
  by_cases hcontrol : c.toNat < 32
  · rw [if_pos hcontrol, if_pos ⟨hcontrol, hbackspace, hfeed, hline, hreturn, htab⟩]
    exact readPieces?_unit (unit?_control hcontrol) cs
  · rw [if_neg hcontrol, if_neg fun h => hcontrol h.1]
    exact readPieces?_plain hquote hslash (Nat.le_of_not_lt hcontrol) cs

theorem joinPieces?_unit {n : Nat} (h : n < 0xD800) (rest : List Piece) :
    joinPieces? (.unit n :: rest) = (joinPieces? rest).map (Char.ofNat n :: ·) := by
  have hhigh : isHighHalf n = false := by
    simp [isHighHalf]; omega
  have hlow : isLowHalf n = false := by
    simp [isLowHalf]; omega
  cases rest with
  | nil => simp [joinPieces?, hhigh, hlow]
  | cons p rest =>
    cases p with
    | char c => simp [joinPieces?, hhigh, hlow]
    | unit m => simp [joinPieces?, hhigh, hlow]

theorem joinPieces?_pieceOf (c : Char) (rest : List Piece) :
    joinPieces? (pieceOf c :: rest) = (joinPieces? rest).map (c :: ·) := by
  unfold pieceOf
  split
  · rename_i h
    rw [joinPieces?_unit (by omega), Char.ofNat_toNat]
  · rw [joinPieces?]

/-- A string is read back. -/
theorem readString?_quoted (s : String) (rest : List Char) :
    readString? (s.toList.flatMap Json.escaped ++ '"' :: rest) = some (some s, rest) := by
  have hpieces : ∀ cs : List Char, readPieces? (cs.flatMap Json.escaped ++ '"' :: rest) =
      some (cs.map pieceOf, rest) := by
    intro cs
    induction cs with
    | nil => simp [readPieces?]
    | cons c cs ih =>
      rw [List.flatMap_cons, List.append_assoc, readPieces?_escaped, ih, Option.map_some,
        List.map_cons]
  have hjoin : ∀ cs : List Char, joinPieces? (cs.map pieceOf) = some cs := by
    intro cs
    induction cs with
    | nil => rfl
    | cons c cs ih => rw [List.map_cons, joinPieces?_pieceOf, ih, Option.map_some]
  simp [readString?, hpieces, hjoin]

theorem readString?_eq_quoted (s : String) (rest : List Char) :
    ∃ cs, Json.quoted s ++ rest = '"' :: cs ∧ readString? cs = some (some s, rest) := by
  refine ⟨s.toList.flatMap Json.escaped ++ '"' :: rest, ?_, readString?_quoted s rest⟩
  simp [Json.quoted]

end Document

/-! ## 2. Spacing -/

namespace Json

/-- The space between the parts of a value: what stands in front of the items and members at a
depth and in front of the bracket that closes them, and what stands after a colon. -/
structure Spacing where
  line : Nat → List Char
  gap : List Char
  line_space : ∀ depth, ∀ c ∈ line depth, Document.isSpace c = true
  gap_space : ∀ c ∈ gap, Document.isSpace c = true

/-- No space at all. -/
def Spacing.tight : Spacing := ⟨fun _ => [], [], by simp, by simp⟩

/-- Each part on a line of its own. -/
def Spacing.indented : Spacing where
  line := newLine
  gap := [' ']
  line_space depth := by
    refine List.forall_mem_cons.mpr ⟨rfl, fun c hc => ?_⟩
    rw [List.eq_of_mem_replicate hc]
    rfl
  gap_space := by simp [Document.isSpace]

namespace Spacing

mutual

/-- A value at a depth, written with some spacing. -/
def write (spacing : Spacing) (depth : Nat) : Json → List Char
  | .array (v :: rest) =>
    '[' :: (spacing.line (depth + 1) ++ (spacing.write (depth + 1) v ++
      (spacing.writeItems (depth + 1) rest ++ (spacing.line depth ++ [']']))))
  | .object ((k, v) :: rest) =>
    '{' :: (spacing.line (depth + 1) ++ (quoted k ++ ':' :: (spacing.gap ++
      (spacing.write (depth + 1) v ++
        (spacing.writeMembers (depth + 1) rest ++ (spacing.line depth ++ ['}']))))))
  | v => v.chars

/-- The items after the first. -/
def writeItems (spacing : Spacing) (depth : Nat) : List Json → List Char
  | [] => []
  | v :: rest =>
    ',' :: (spacing.line depth ++ (spacing.write depth v ++ spacing.writeItems depth rest))

/-- The members after the first. -/
def writeMembers (spacing : Spacing) (depth : Nat) : List (String × Json) → List Char
  | [] => []
  | (k, v) :: rest =>
    ',' :: (spacing.line depth ++ (quoted k ++ ':' :: (spacing.gap ++
      (spacing.write depth v ++ spacing.writeMembers depth rest))))

end

@[simp] theorem tight_line (depth : Nat) : tight.line depth = [] := rfl

@[simp] theorem tight_gap : tight.gap = [] := rfl

@[simp] theorem indented_line (depth : Nat) : indented.line depth = newLine depth := rfl

@[simp] theorem indented_gap : indented.gap = [' '] := rfl

mutual

/-- Text on one line is text without space. -/
theorem tight_write (depth : Nat) : ∀ v : Json, tight.write depth v = v.chars
  | .array (v :: rest) => by
    simp [write, chars, tight_write (depth + 1) v, itemChars_cons (depth + 1) v rest]
  | .object ((k, v) :: rest) => by
    simp [write, chars, tight_write (depth + 1) v, memberChars_cons (depth + 1) k v rest]
  | .array [] | .object [] | .null | .bool _ | .number _ | .string _ => by simp [write]

theorem itemChars_cons (depth : Nat) : ∀ (v : Json) (rest : List Json),
    itemChars (v :: rest) = v.chars ++ tight.writeItems depth rest
  | v, [] => by simp [itemChars, writeItems]
  | v, w :: rest => by
    simp [itemChars, writeItems, tight_write depth w, itemChars_cons depth w rest]

theorem memberChars_cons (depth : Nat) : ∀ (k : String) (v : Json) (rest : List (String × Json)),
    memberChars ((k, v) :: rest) =
      quoted k ++ ':' :: (v.chars ++ tight.writeMembers depth rest)
  | k, v, [] => by simp [memberChars, writeMembers]
  | k, v, (l, w) :: rest => by
    simp [memberChars, writeMembers, tight_write depth w, memberChars_cons depth l w rest]

end

mutual

/-- Text over several lines is text with each part on a line of its own. -/
theorem indented_write (depth : Nat) : ∀ v : Json, indented.write depth v = v.prettyChars depth
  | .array (v :: rest) => by
    simp [write, prettyChars, indented_write (depth + 1) v, indented_writeItems (depth + 1) rest]
  | .object ((k, v) :: rest) => by
    simp [write, prettyChars, indented_write (depth + 1) v, indented_writeMembers (depth + 1) rest]
  | .array [] | .object [] | .null | .bool _ | .number _ | .string _ => by
    simp [write, prettyChars]

theorem indented_writeItems (depth : Nat) :
    ∀ items : List Json, indented.writeItems depth items = prettyItems depth items
  | [] => by simp [writeItems, prettyItems]
  | v :: rest => by
    simp [writeItems, prettyItems, indented_write depth v, indented_writeItems depth rest]

theorem indented_writeMembers (depth : Nat) : ∀ members : List (String × Json),
    indented.writeMembers depth members = prettyMembers depth members
  | [] => by simp [writeMembers, prettyMembers]
  | (k, v) :: rest => by
    simp [writeMembers, prettyMembers, indented_write depth v, indented_writeMembers depth rest]

end

end Spacing

/-! ## 3. What a value is made of -/

/-- A value in which at most `levels` arrays and objects stand inside each other. -/
inductive NestsUpTo : Nat → Json → Prop where
  | null (levels : Nat) : NestsUpTo levels .null
  | bool (levels : Nat) (b : Bool) : NestsUpTo levels (.bool b)
  | number (levels : Nat) (n : Number) : NestsUpTo levels (.number n)
  | string (levels : Nat) (s : String) : NestsUpTo levels (.string s)
  | array {levels : Nat} {items : List Json} (h : ∀ v ∈ items, NestsUpTo levels v) :
      NestsUpTo (levels + 1) (.array items)
  | object {levels : Nat} {members : List (String × Json)}
      (h : ∀ m ∈ members, NestsUpTo levels m.2) : NestsUpTo (levels + 1) (.object members)

/-- A number that stands in a value. -/
inductive HasNumber (n : Number) : Json → Prop where
  | self : HasNumber n (.number n)
  | item {v : Json} {items : List Json} (hv : v ∈ items) (h : HasNumber n v) :
      HasNumber n (.array items)
  | member {m : String × Json} {members : List (String × Json)} (hm : m ∈ members)
      (h : HasNumber n m.2) : HasNumber n (.object members)

section HasNumber

variable {n : Number}

@[simp] theorem not_hasNumber_null : ¬ HasNumber n .null := nofun

@[simp] theorem not_hasNumber_bool (b : Bool) : ¬ HasNumber n (.bool b) := nofun

@[simp] theorem not_hasNumber_string (s : String) : ¬ HasNumber n (.string s) := nofun

@[simp] theorem hasNumber_number (m : Number) : HasNumber n (.number m) ↔ n = m := by
  constructor
  · rintro ⟨⟩
    rfl
  · rintro rfl
    exact .self

@[simp] theorem hasNumber_array (items : List Json) :
    HasNumber n (.array items) ↔ ∃ v ∈ items, HasNumber n v := by
  constructor
  · rintro (_ | ⟨hv, h⟩)
    exact ⟨_, hv, h⟩
  · rintro ⟨v, hv, h⟩
    exact .item hv h

@[simp] theorem hasNumber_object (members : List (String × Json)) :
    HasNumber n (.object members) ↔ ∃ m ∈ members, HasNumber n m.2 := by
  constructor
  · rintro (_ | _ | ⟨hm, h⟩)
    exact ⟨_, hm, h⟩
  · rintro ⟨m, hm, h⟩
    exact .member hm h

end HasNumber

end Json

/-! ## 4. Steps of the readers -/

namespace Document

variable {fuel depth : Nat} {cs left next rest : List Char}

theorem skipSpace_skipSpace (cs : List Char) : skipSpace (skipSpace cs) = skipSpace cs := by
  cases h : skipSpace cs with
  | nil => rfl
  | cons c rest =>
    refine skipSpace_of_head ?_
    have hhead := List.head?_dropWhile_not isSpace cs
    rwa [← skipSpace, h] at hhead

/-- Space in front of a part is passed over. -/
theorem read?_skipSpace (fuel depth : Nat) (cs : List Char) :
    read? fuel depth (skipSpace cs) = read? fuel depth cs := by
  cases fuel with
  | zero => rfl
  | succ fuel =>
    unfold read?
    rw [skipSpace_skipSpace]

theorem readItems?_skipSpace (fuel depth : Nat) (cs : List Char) :
    readItems? fuel depth (skipSpace cs) = readItems? fuel depth cs := by
  cases fuel with
  | zero => rfl
  | succ fuel =>
    unfold readItems?
    rw [read?_skipSpace]

theorem readMembers?_skipSpace (fuel depth : Nat) (cs : List Char) :
    readMembers? fuel depth (skipSpace cs) = readMembers? fuel depth cs := by
  cases fuel with
  | zero => rfl
  | succ fuel =>
    unfold readMembers?
    rw [skipSpace_skipSpace]

/-- No item starts with the bracket that closes them. -/
theorem readItems?_bracket (fuel depth : Nat) (cs : List Char) :
    readItems? fuel depth (']' :: cs) = none := by
  have hnumber : readNumber? (']' :: cs) = none := by
    rw [Option.eq_none_iff_forall_ne_some]
    intro p hp
    obtain ⟨c, rest, hcs, hc⟩ := readNumber?_head hp
    rw [← (List.cons.inj hcs).1] at hc
    exact absurd hc (by decide)
  have hread : ∀ fuel, read? fuel depth (']' :: cs) = none := by
    intro fuel
    cases fuel with
    | zero => rfl
    | succ fuel => exact hnumber
  cases fuel with
  | zero => rfl
  | succ fuel =>
    rw [readItems?, hread]
    rfl

theorem readItems?_last {d : Document} (hread : read? fuel depth cs = some (d, left))
    (hleft : skipSpace left = ']' :: rest) : readItems? (fuel + 1) depth cs = some ([d], rest) := by
  simp [readItems?, hread, hleft]

theorem readItems?_more {d : Document} {items : List Document}
    (hread : read? fuel depth cs = some (d, left)) (hleft : skipSpace left = ',' :: next)
    (hnext : readItems? fuel depth next = some (items, rest)) :
    readItems? (fuel + 1) depth cs = some (d :: items, rest) := by
  simp [readItems?, hread, hleft, hnext]

theorem read?_array {items : List Document}
    (h : readItems? fuel (depth + 1) cs = some (items, rest)) :
    read? (fuel + 1) depth ('[' :: cs) = some (atDepth depth (.array items), rest) := by
  have hspace : skipSpace ('[' :: cs) = '[' :: cs := rfl
  rw [← readItems?_skipSpace] at h
  simp only [read?, hspace]
  split
  · rename_i heq
    rw [heq, readItems?_bracket] at h
    cases h
  · rw [h]
    rfl

theorem read?_object {members : List (Option String × Document)}
    (h : readMembers? fuel (depth + 1) cs = some (members, rest)) :
    read? (fuel + 1) depth ('{' :: cs) = some (atDepth depth (.object members), rest) := by
  have hspace : skipSpace ('{' :: cs) = '{' :: cs := rfl
  rw [← readMembers?_skipSpace] at h
  simp only [read?, hspace]
  split
  · rename_i heq
    rw [heq] at h
    cases fuel <;> cases h
  · rw [h]
    rfl

theorem readMembers?_last {key : Option String} {d : Document} {value : List Char}
    (hkey : readString? cs = some (key, left)) (hcolon : skipSpace left = ':' :: value)
    (hread : read? fuel depth value = some (d, next)) (hnext : skipSpace next = '}' :: rest) :
    readMembers? (fuel + 1) depth ('"' :: cs) = some ([(key, d)], rest) := by
  have hspace : skipSpace ('"' :: cs) = '"' :: cs := rfl
  simp [readMembers?, hspace, hkey, hcolon, hread, hnext]

theorem readMembers?_more {key : Option String} {d : Document} {value after : List Char}
    {members : List (Option String × Document)}
    (hkey : readString? cs = some (key, left)) (hcolon : skipSpace left = ':' :: value)
    (hread : read? fuel depth value = some (d, next)) (hnext : skipSpace next = ',' :: after)
    (hafter : readMembers? fuel depth after = some (members, rest)) :
    readMembers? (fuel + 1) depth ('"' :: cs) = some ((key, d) :: members, rest) := by
  have hspace : skipSpace ('"' :: cs) = '"' :: cs := rfl
  simp [readMembers?, hspace, hkey, hcolon, hread, hnext, hafter]

end Document

/-! ## 5. A value in the middle of a text -/

namespace Json

open Document (Stops read? readItems? readMembers? skipSpace atDepth ofJson ofItems ofMembers)

namespace Spacing

variable {spacing : Spacing} {fuel depth indent : Nat} {rest : List Char}

/-- A value inside `depth` arrays and objects is read as what was written, whatever follows. -/
def Reads (spacing : Spacing) (depth : Nat) (v : Json) : Prop :=
  ∀ (indent fuel : Nat) (rest : List Char), Stops rest →
    2 * (spacing.write indent v ++ rest).length + 2 ≤ fuel →
      read? fuel depth (spacing.write indent v ++ rest) = some (ofJson v, rest)

/-- What stands after an item: the other items and the bracket that closes them. -/
def afterItem (spacing : Spacing) (indent : Nat) (items : List Json) (rest : List Char) :
    List Char :=
  spacing.writeItems (indent + 1) items ++ (spacing.line indent ++ ']' :: rest)

/-- What stands after a key: a colon and the value. -/
def afterKey (spacing : Spacing) (indent : Nat) (v : Json) (rest : List Char) : List Char :=
  ':' :: (spacing.gap ++ (spacing.write (indent + 1) v ++ rest))

/-- What stands after a member: the other members and the brace that closes them. -/
def afterMember (spacing : Spacing) (indent : Nat) (members : List (String × Json))
    (rest : List Char) : List Char :=
  spacing.writeMembers (indent + 1) members ++ (spacing.line indent ++ '}' :: rest)

theorem afterItem_nil : spacing.afterItem indent [] rest = spacing.line indent ++ ']' :: rest := rfl

theorem afterItem_cons (v : Json) (items : List Json) :
    spacing.afterItem indent (v :: items) rest =
      ',' :: (spacing.line (indent + 1) ++ (spacing.write (indent + 1) v ++
        spacing.afterItem indent items rest)) := by
  simp [afterItem, writeItems]

theorem afterMember_nil :
    spacing.afterMember indent [] rest = spacing.line indent ++ '}' :: rest := rfl

theorem afterMember_cons (k : String) (v : Json) (members : List (String × Json)) :
    spacing.afterMember indent ((k, v) :: members) rest =
      ',' :: (spacing.line (indent + 1) ++ (quoted k ++
        spacing.afterKey indent v (spacing.afterMember indent members rest))) := by
  simp [afterMember, afterKey, writeMembers]

/-- What stands before a bracket that closes. -/
theorem skipSpace_line {c : Char} (hc : Document.isSpace c = false) :
    skipSpace (spacing.line indent ++ c :: rest) = c :: rest := by
  rw [Document.skipSpace_append (spacing.line_space indent), Document.skipSpace_of_head hc]

theorem stops_cons {c : Char} (hc : Document.isSpace c = true ∨ c = ',' ∨ c = ']' ∨ c = '}') :
    Stops (c :: rest) := by
  intro d hd
  obtain rfl : c = d := by simpa using hd
  exact hc

theorem stops_afterItem (items : List Json) : Stops (spacing.afterItem indent items rest) := by
  cases items with
  | nil =>
    have hclose : Stops (']' :: rest) := stops_cons (.inr (.inr (.inl rfl)))
    rw [afterItem_nil]
    exact hclose.spaces (spacing.line_space indent)
  | cons v items =>
    rw [afterItem_cons]
    exact stops_cons (.inr (.inl rfl))

theorem stops_afterMember (members : List (String × Json)) :
    Stops (spacing.afterMember indent members rest) := by
  cases members with
  | nil =>
    have hclose : Stops ('}' :: rest) := stops_cons (.inr (.inr (.inr rfl)))
    rw [afterMember_nil]
    exact hclose.spaces (spacing.line_space indent)
  | cons m members =>
    rw [afterMember_cons]
    exact stops_cons (.inr (.inl rfl))

theorem readItems?_line (spacing : Spacing) (indent : Nat) (cs : List Char) :
    readItems? fuel depth (spacing.line indent ++ cs) = readItems? fuel depth cs := by
  rw [← Document.readItems?_skipSpace, Document.skipSpace_append (spacing.line_space indent),
    Document.readItems?_skipSpace]

theorem readMembers?_line (spacing : Spacing) (indent : Nat) (cs : List Char) :
    readMembers? fuel depth (spacing.line indent ++ cs) = readMembers? fuel depth cs := by
  rw [← Document.readMembers?_skipSpace, Document.skipSpace_append (spacing.line_space indent),
    Document.readMembers?_skipSpace]

/-- Items are read one by one up to the bracket that closes them. -/
theorem readItems?_write (v : Json) (items : List Json)
    (hreads : ∀ w ∈ v :: items, spacing.Reads depth w)
    (hfuel : 2 * (spacing.write (indent + 1) v ++ spacing.afterItem indent items rest).length + 3 ≤
      fuel) :
    readItems? fuel depth (spacing.write (indent + 1) v ++ spacing.afterItem indent items rest) =
      some (ofItems (v :: items), rest) := by
  induction items generalizing v fuel with
  | nil =>
    obtain ⟨fuel, rfl⟩ : ∃ n, fuel = n + 1 := ⟨fuel - 1, by omega⟩
    have hread := hreads v List.mem_cons_self _ _ _ (stops_afterItem [])
      (Nat.le_of_succ_le_succ hfuel)
    exact Document.readItems?_last hread (skipSpace_line rfl)
  | cons w items ih =>
    obtain ⟨fuel, rfl⟩ : ∃ n, fuel = n + 1 := ⟨fuel - 1, by omega⟩
    have hread := hreads v List.mem_cons_self _ _ _ (stops_afterItem (w :: items))
      (Nat.le_of_succ_le_succ hfuel)
    -- the comma alone leaves enough fuel for the other items
    have hshorter : 2 * (spacing.write (indent + 1) w ++
        spacing.afterItem indent items rest).length + 3 ≤ fuel := by
      simp only [afterItem_cons, List.length_append, List.length_cons] at hfuel ⊢
      omega
    have hrest := ih w (fun u hu => hreads u (List.mem_cons_of_mem v hu)) hshorter
    refine Document.readItems?_more hread ?_ ((readItems?_line spacing (indent + 1) _).trans hrest)
    rw [afterItem_cons]
    exact Document.skipSpace_of_head rfl

/-- A member is read: its key, the colon and its value. -/
theorem read?_member (k : String) {v : Json} (hv : spacing.Reads depth v) (hrest : Stops rest)
    (hfuel : 2 * (quoted k ++ spacing.afterKey indent v rest).length + 2 ≤ fuel) :
    ∃ cs left value, quoted k ++ spacing.afterKey indent v rest = '"' :: cs ∧
      Document.readString? cs = some (some k, left) ∧ skipSpace left = ':' :: value ∧
        read? fuel depth value = some (ofJson v, rest) := by
  obtain ⟨cs, hcs, hkey⟩ := Document.readString?_eq_quoted k (spacing.afterKey indent v rest)
  refine ⟨cs, _, _, hcs, hkey, rfl, ?_⟩
  rw [← Document.read?_skipSpace, Document.skipSpace_append spacing.gap_space,
    Document.read?_skipSpace]
  refine hv _ _ _ hrest ?_
  simp only [afterKey, List.length_append, List.length_cons] at hfuel ⊢
  omega

/-- Members are read one by one up to the brace that closes them. -/
theorem readMembers?_write (k : String) (v : Json) (members : List (String × Json))
    (hreads : ∀ m ∈ (k, v) :: members, spacing.Reads depth m.2)
    (hfuel : 2 * (quoted k ++
      spacing.afterKey indent v (spacing.afterMember indent members rest)).length + 3 ≤ fuel) :
    readMembers? fuel depth (quoted k ++
      spacing.afterKey indent v (spacing.afterMember indent members rest)) =
        some (ofMembers ((k, v) :: members), rest) := by
  induction members generalizing k v fuel with
  | nil =>
    obtain ⟨fuel, rfl⟩ : ∃ n, fuel = n + 1 := ⟨fuel - 1, by omega⟩
    obtain ⟨cs, left, value, hcs, hkey, hcolon, hread⟩ :=
      read?_member k (hreads (k, v) List.mem_cons_self) (stops_afterMember [])
        (Nat.le_of_succ_le_succ hfuel)
    rw [hcs]
    exact Document.readMembers?_last hkey hcolon hread (skipSpace_line rfl)
  | cons m members ih =>
    obtain ⟨l, w⟩ := m
    obtain ⟨fuel, rfl⟩ : ∃ n, fuel = n + 1 := ⟨fuel - 1, by omega⟩
    obtain ⟨cs, left, value, hcs, hkey, hcolon, hread⟩ :=
      read?_member k (hreads (k, v) List.mem_cons_self) (stops_afterMember ((l, w) :: members))
        (Nat.le_of_succ_le_succ hfuel)
    have hshorter : 2 * (quoted l ++ spacing.afterKey indent w
        (spacing.afterMember indent members rest)).length + 3 ≤ fuel := by
      simp only [afterMember_cons, afterKey, List.length_append, List.length_cons] at hfuel ⊢
      omega
    have hrest := ih l w (fun u hu => hreads u (List.mem_cons_of_mem (k, v) hu)) hshorter
    rw [hcs]
    refine Document.readMembers?_more hkey hcolon hread ?_
      ((readMembers?_line spacing (indent + 1) _).trans hrest)
    rw [afterMember_cons]
    exact Document.skipSpace_of_head rfl

/-- A value without items and members is read if its text is. -/
theorem reads_leaf {v : Json} (hwrite : ∀ indent, spacing.write indent v = v.chars)
    (hread : ∀ fuel rest, Stops rest →
      read? (fuel + 1) depth (v.chars ++ rest) = some (ofJson v, rest)) :
    spacing.Reads depth v := by
  intro indent fuel rest hrest hfuel
  obtain ⟨fuel, rfl⟩ : ∃ n, fuel = n + 1 := ⟨fuel - 1, by omega⟩
  rw [hwrite]
  exact hread fuel rest hrest

theorem reads_number {n : Number} (h : n.Survives) : spacing.Reads depth (.number n) :=
  reads_leaf (fun _ => rfl) fun fuel _ hrest =>
    Document.read?_of_readNumber? (h.readNumber? hrest) fuel depth

theorem reads_string (s : String) : spacing.Reads depth (.string s) := by
  refine reads_leaf (fun _ => rfl) fun fuel rest _ => ?_
  obtain ⟨cs, hcs, hs⟩ := Document.readString?_eq_quoted s rest
  have hspace : skipSpace ('"' :: cs) = '"' :: cs := rfl
  rw [chars, hcs]
  simp only [read?, hspace, hs]
  rfl

theorem atDepth_of_lt {d : Document} (h : depth < Document.nestingLimit) : atDepth depth d = d :=
  if_pos h

theorem reads_array {items : List Json} (hdepth : depth < Document.nestingLimit)
    (hreads : ∀ v ∈ items, spacing.Reads (depth + 1) v) : spacing.Reads depth (.array items) := by
  cases items with
  | nil =>
    refine reads_leaf (fun _ => rfl) fun fuel rest _ => ?_
    exact congrArg (fun d => some (d, rest)) (atDepth_of_lt hdepth)
  | cons v items =>
    intro indent fuel rest hrest hfuel
    obtain ⟨fuel, rfl⟩ : ∃ n, fuel = n + 1 := ⟨fuel - 1, by omega⟩
    have htext : spacing.write indent (.array (v :: items)) ++ rest =
        '[' :: (spacing.line (indent + 1) ++ (spacing.write (indent + 1) v ++
          spacing.afterItem indent items rest)) := by
      simp [write, afterItem]
    rw [htext] at hfuel ⊢
    have hlength : 2 * (spacing.write (indent + 1) v ++
        spacing.afterItem indent items rest).length + 3 ≤ fuel := by
      simp only [List.length_append, List.length_cons] at hfuel ⊢
      omega
    have hitems := readItems?_write v items hreads hlength
    rw [← readItems?_line spacing (indent + 1)] at hitems
    rw [Document.read?_array hitems, atDepth_of_lt hdepth, ofJson]

theorem reads_object {members : List (String × Json)} (hdepth : depth < Document.nestingLimit)
    (hreads : ∀ m ∈ members, spacing.Reads (depth + 1) m.2) :
    spacing.Reads depth (.object members) := by
  cases members with
  | nil =>
    refine reads_leaf (fun _ => rfl) fun fuel rest _ => ?_
    exact congrArg (fun d => some (d, rest)) (atDepth_of_lt hdepth)
  | cons m members =>
    obtain ⟨k, v⟩ := m
    intro indent fuel rest hrest hfuel
    obtain ⟨fuel, rfl⟩ : ∃ n, fuel = n + 1 := ⟨fuel - 1, by omega⟩
    have htext : spacing.write indent (.object ((k, v) :: members)) ++ rest =
        '{' :: (spacing.line (indent + 1) ++ (quoted k ++
          spacing.afterKey indent v (spacing.afterMember indent members rest))) := by
      simp [write, afterKey, afterMember]
    rw [htext] at hfuel ⊢
    have hlength : 2 * (quoted k ++ spacing.afterKey indent v
        (spacing.afterMember indent members rest)).length + 3 ≤ fuel := by
      simp only [List.length_append, List.length_cons] at hfuel ⊢
      omega
    have hmembers := readMembers?_write k v members hreads hlength
    rw [← readMembers?_line spacing (indent + 1)] at hmembers
    rw [Document.read?_object hmembers, atDepth_of_lt hdepth, ofJson]

/-- A value that nests no deeper than is left and whose numbers survive is read. -/
theorem reads_of_canonical {v : Json} (hv : v.Canonical) {levels : Nat}
    (hlevels : v.NestsUpTo levels) (hdepth : depth + levels ≤ Document.nestingLimit)
    (hnumbers : ∀ n, v.HasNumber n → n.Survives) : spacing.Reads depth v := by
  -- one level further in, one more of the levels is used up
  induction hv generalizing levels depth with
  | null => exact reads_leaf (fun _ => rfl) fun _ _ _ => rfl
  | bool b => cases b <;> exact reads_leaf (fun _ => rfl) fun _ _ _ => rfl
  | integer n h => exact reads_number (hnumbers _ .self)
  | double x => exact reads_number (hnumbers _ .self)
  | string s => exact reads_string s
  | array items h ih =>
    cases hlevels with
    | array hitems =>
      refine reads_array (by omega) fun v hv => ?_
      exact ih v hv (hitems v hv) (by omega) fun n hn => hnumbers n (.item hv hn)
  | object members sorted h ih =>
    cases hlevels with
    | object hmembers =>
      refine reads_object (by omega) fun m hm => ?_
      exact ih m hm (hmembers m hm) (by omega) fun n hn => hnumbers n (.member hm hn)

end Spacing

/-! ## 6. The whole text -/

/-- A member whose key comes after all others goes to the end. -/
theorem insertMember_append {α : Type} {key : String} {members : List (String × α)}
    (h : ∀ m ∈ members, m.1 < key) (value : α) :
    insertMember key value members = members ++ [(key, value)] := by
  induction members with
  | nil => rfl
  | cons m rest ih =>
    obtain ⟨k, v⟩ := m
    obtain ⟨hk, hrest⟩ := List.forall_mem_cons.mp h
    have hne : key ≠ k := by
      rintro rfl
      exact String.lt_irrefl key hk
    rw [insertMember, if_neg (String.lt_asymm hk), if_neg hne, ih hrest, List.cons_append]

/-- Members in key order stay as they are. -/
theorem sortMembers_of_ascending {α : Type} {members : List (String × α)} (h : Ascending members) :
    sortMembers members = members := by
  have hfold : ∀ rest before : List (String × α), Ascending (before ++ rest) →
      rest.foldl (fun sorted m => insertMember m.1 m.2 sorted) before = before ++ rest := by
    intro rest
    induction rest with
    | nil => intro before _; simp
    | cons m rest ih =>
      intro before hsorted
      have hlast : ∀ b ∈ before, b.1 < m.1 := fun b hb =>
        (List.pairwise_append.mp hsorted).2.2 b hb m List.mem_cons_self
      rw [List.foldl_cons, insertMember_append hlast, ih _ (by simpa using hsorted)]
      simp
  exact hfold members [] h

/-- The document of a value denotes the value. -/
theorem value?_ofJson {v : Json} (h : v.Canonical) : (ofJson v).value? = some v := by
  have hvalues : ∀ items : List Json, (∀ v ∈ items, (ofJson v).value? = some v) →
      Document.values? (ofItems items) = some items := by
    intro items hitems
    induction items with
    | nil => rfl
    | cons v items ih =>
      obtain ⟨hv, hrest⟩ := List.forall_mem_cons.mp hitems
      simp [ofItems, Document.values?, hv, ih hrest]
  have hmemberValues : ∀ members : List (String × Json),
      (∀ m ∈ members, (ofJson m.2).value? = some m.2) →
        Document.memberValues? (ofMembers members) = some members := by
    intro members hmembers
    induction members with
    | nil => rfl
    | cons m members ih =>
      obtain ⟨k, v⟩ := m
      obtain ⟨hv, hrest⟩ := List.forall_mem_cons.mp hmembers
      simp [ofMembers, Document.memberValues?, hv, ih hrest]
  induction h with
  | null | bool _ | integer _ _ | double _ | string _ => rfl
  | array items _ ih => simp [ofJson, Document.value?, hvalues items ih]
  | object members sorted _ ih =>
    simp [ofJson, Document.value?, hmemberValues members ih, sortMembers_of_ascending sorted]

/-- **A text that was written is read back as the value**, whatever space was put into it. -/
theorem ofText?_write {v : Json} (hv : v.Canonical) (hlevels : v.NestsUpTo Document.nestingLimit)
    (hnumbers : ∀ n, v.HasNumber n → n.Survives) (spacing : Spacing) (indent : Nat) :
    ofText? (String.ofList (spacing.write indent v)) = some v := by
  have hreads : spacing.Reads 0 v := Spacing.reads_of_canonical hv hlevels (by omega) hnumbers
  have hread := hreads indent (2 * (spacing.write indent v).length + 2) [] Document.stops_nil
    (by simp)
  rw [List.append_nil] at hread
  have hdocument : Document.ofChars? (spacing.write indent v) = some (ofJson v) :=
    Document.ofChars?_eq_some_iff.mpr ⟨[], hread, rfl⟩
  rw [ofText?, Document.ofText?, String.toList_ofList, hdocument, Option.bind_some,
    value?_ofJson hv]

theorem ofText?_text {v : Json} (hv : v.Canonical) (hlevels : v.NestsUpTo Document.nestingLimit)
    (hnumbers : ∀ n, v.HasNumber n → n.Survives) : ofText? v.text = some v := by
  rw [text, ← Spacing.tight_write 0]
  exact ofText?_write hv hlevels hnumbers .tight 0

theorem ofText?_pretty {v : Json} (hv : v.Canonical) (hlevels : v.NestsUpTo Document.nestingLimit)
    (hnumbers : ∀ n, v.HasNumber n → n.Survives) : ofText? v.pretty = some v := by
  rw [pretty, ← Spacing.indented_write 0]
  exact ofText?_write hv hlevels hnumbers .indented 0

end Json

end QuotaBoard
