import QuotaBoard.IdToken
import QuotaBoard.Proofs.Base64Digits
import QuotaBoard.Proofs.Numerals
import QuotaBoard.Proofs.Scanning

/-!
# The claims that a token carries

A token carries claims just if its second part, between points, is made of the base64 digits of a
JSON text that denotes them, and of padding or a piece of it (`Carries`).  The stages of the reading
are taken one after the other: the part (`getElem?_splitOnChar_one`), its digits and its padding
(`segmentBytes?_eq_some_iff`), the text of its bytes (`text?_eq_some_iff`).

What is written around the second part does not matter (`secondPart_tokenOf`), so a token that is
put together in the usual way carries its claims.
-/

namespace QuotaBoard

/-! ## 1. Parts of a text -/

namespace Text

variable {separator : Char} {cs part : List Char}

/-- The part of a text between the first separator and the next one, or the end. -/
def SecondPart (separator : Char) (cs part : List Char) : Prop :=
  ∃ first rest, cs = first ++ separator :: (part ++ rest) ∧ separator ∉ first ∧
    separator ∉ part ∧ (rest = [] ∨ ∃ others, rest = separator :: others)

theorem head?_splitOnChar_eq_some_iff :
    (splitOnChar separator cs).head? = some part ↔
      ∃ rest, cs = part ++ rest ∧ separator ∉ part ∧
        (rest = [] ∨ ∃ others, rest = separator :: others) := by
  constructor
  · intro h
    by_cases hmem : separator ∈ cs
    · obtain ⟨first, others, rfl, hfirst⟩ := List.eq_append_cons_of_mem hmem
      rw [splitOnChar_append_cons hfirst] at h
      obtain rfl := Option.some.inj h
      exact ⟨_, rfl, hfirst, .inr ⟨others, rfl⟩⟩
    · rw [splitOnChar_of_not_mem hmem] at h
      obtain rfl := Option.some.inj h
      exact ⟨[], (List.append_nil _).symm, hmem, .inl rfl⟩
  · rintro ⟨rest, rfl, hpart, rfl | ⟨others, rfl⟩⟩
    · rw [List.append_nil, splitOnChar_of_not_mem hpart]
      rfl
    · rw [splitOnChar_append_cons hpart]
      rfl

theorem getElem?_splitOnChar_one :
    (splitOnChar separator cs)[1]? = some part ↔ SecondPart separator cs part := by
  have hsecond : ∀ first others, separator ∉ first →
      (splitOnChar separator (first ++ separator :: others))[1]? =
        (splitOnChar separator others).head? := by
    intro first others hfirst
    rw [splitOnChar_append_cons hfirst, List.getElem?_cons_succ, List.head?_eq_getElem?]
  constructor
  · intro h
    by_cases hmem : separator ∈ cs
    · obtain ⟨first, others, rfl, hfirst⟩ := List.eq_append_cons_of_mem hmem
      rw [hsecond first others hfirst, head?_splitOnChar_eq_some_iff] at h
      obtain ⟨rest, rfl, hpart, hrest⟩ := h
      exact ⟨first, rest, rfl, hfirst, hpart, hrest⟩
    · rw [splitOnChar_of_not_mem hmem] at h
      cases h
  · rintro ⟨first, rest, rfl, hfirst, hpart, hrest⟩
    rw [hsecond first _ hfirst, head?_splitOnChar_eq_some_iff]
    exact ⟨rest, rfl, hpart, hrest⟩

end Text

/-! ## 2. Bytes of a text -/

namespace Utf8

theorem toList_loop (bytes : ByteArray) (i : Nat) (seen : List UInt8) :
    ByteArray.toList.loop bytes i seen = seen.reverse ++ bytes.data.toList.drop i := by
  fun_induction ByteArray.toList.loop bytes i seen with
  | case1 i seen hi ih =>
    have hi' : i < bytes.data.toList.length := by simpa using hi
    have hget : bytes.get! i = bytes.data.toList[i] := by
      have hbang : bytes.get! i = bytes.data[i]! := by
        cases bytes
        rfl
      rw [hbang, getElem!_pos bytes.data i hi, Array.getElem_toList]
    rw [ih, List.drop_eq_getElem_cons hi', hget, List.reverse_cons, List.append_assoc,
      List.singleton_append]
  | case2 i seen hi =>
    rw [List.drop_eq_nil_of_le (by simpa using Nat.le_of_not_lt hi), List.append_nil]

theorem bytes_eq (s : String) : bytes s = s.toByteArray.data.toList := by
  rw [bytes, ByteArray.toList, toList_loop]
  rfl

theorem text?_eq_some_iff {bs : List UInt8} {s : String} : text? bs = some s ↔ bs = bytes s := by
  rw [bytes_eq, text?, String.fromUTF8?]
  constructor
  · intro h
    split at h
    · obtain rfl := Option.some.inj h
      rfl
    · cases h
  · rintro rfl
    exact dif_pos s.isValidUTF8

end Utf8

namespace IdToken

/-! ## 3. Segments -/

/-- A segment spells some bytes: their digits, followed by as much padding as completes the last
group of four digits, or less. -/
def Spells (segment : List Char) (bytes : List UInt8) : Prop :=
  ∃ digits padding, segment = digits ++ List.replicate padding '=' ∧
    List.Forall₂ Base64.IsDigit digits (Base64.sextets bytes) ∧
    padding ≤ (3 - bytes.length % 3) % 3

theorem segmentBytes?_eq_some_iff {segment : List Char} {bytes : List UInt8} :
    segmentBytes? segment = some bytes ↔ Spells segment bytes := by
  have hpadding : ∀ {digits}, List.Forall₂ Base64.IsDigit digits (Base64.sextets bytes) →
      Base64.paddingOf digits.length = (3 - bytes.length % 3) % 3 := by
    intro digits h
    rw [h.length_eq, Base64.paddingOf_length_sextets]
  rw [segmentBytes?, Base64.decode?_eq_some_iff]
  constructor
  · rintro ⟨standard, hfill, hnone, hbytes⟩
    obtain ⟨digits, padding, rfl, rfl⟩ := Base64.exists_of_fill_eq hnone hfill
    have hdigits := Base64.ofDigits?_map_eq_some_iff.mp hbytes
    rw [Base64.fill_map_standardDigit hdigits, List.length_map] at hfill
    have hcount : padding + Base64.paddingOf (digits.length + padding) =
        Base64.paddingOf digits.length := by
      simpa using congrArg List.length hfill
    exact ⟨digits, padding, rfl, hdigits, hpadding hdigits ▸ Base64.add_paddingOf_iff.mp hcount⟩
  · rintro ⟨digits, padding, rfl, hdigits, hle⟩
    refine ⟨digits.map Base64.standardDigit, ?_, ?_, Base64.ofDigits?_map_eq_some_iff.mpr hdigits⟩
    · rw [← hpadding hdigits] at hle
      rw [Base64.fill_map_standardDigit hdigits, Base64.add_paddingOf_iff.mpr hle, List.length_map]
    · intro hmem
      obtain ⟨c, hc, hpad⟩ := List.mem_map.mp hmem
      obtain rfl := Base64.standardDigit_eq_iff.mp hpad
      exact Base64.not_mem_digits hdigits rfl hc

/-! ## 4. Tokens -/

/-- A token carries some claims: without the blanks around it, its second part spells the bytes of a
JSON text that denotes them, and they are an object. -/
def Carries (token : String) (claims : Json) : Prop :=
  ∃ segment text, Text.SecondPart '.' (Text.trim token).toList segment ∧ segment ≠ [] ∧
    Spells segment (Utf8.bytes text) ∧ Json.ofText? text = some claims ∧ claims.isObject = true

theorem decode?_eq_some_iff {token : String} {claims : Json} :
    decode? token = some claims ↔ Carries token claims := by
  simp only [decode?, Option.bind_eq_bind, Option.bind_eq_some_iff, Option.guard_eq_some',
    exists_const, Text.getElem?_splitOnChar_one, segmentBytes?_eq_some_iff,
    Utf8.text?_eq_some_iff, Carries, Text.trim, String.toList_ofList]
  constructor
  · rintro ⟨segment, hpart, hne, bytes, hspells, text, rfl, value, hvalue, hobject, hclaims⟩
    obtain rfl := Option.some.inj hclaims
    exact ⟨segment, text, hpart, by simpa using hne, hspells, hvalue, hobject⟩
  · rintro ⟨segment, text, hpart, hne, hspells, hvalue, hobject⟩
    exact ⟨segment, hpart, by simpa using hne, _, hspells, text, rfl, claims, hvalue, hobject, rfl⟩

/-- The segment of a text, with some padding. -/
def segmentOf (text : String) (padding : Nat) : List Char :=
  Base64.encodeUrl (Utf8.bytes text) ++ List.replicate padding '='

/-- A token of three parts. -/
def tokenOf (header : String) (segment : List Char) (signature : String) : String :=
  String.ofList (header.toList ++ '.' :: (segment ++ '.' :: signature.toList))

/-- Blanks are removed from the header and the signature only. -/
theorem secondPart_tokenOf {header : String} {segment : List Char} (signature : String)
    (hheader : '.' ∉ header.toList) (hsegment : '.' ∉ segment) :
    Text.SecondPart '.' (Text.trim (tokenOf header segment signature)).toList segment := by
  have hpoint : Text.isBlank '.' = false := rfl
  refine ⟨Text.trimStartList header.toList, '.' :: Text.trimEndList signature.toList, ?_,
    fun hmem => hheader ((List.dropWhile_suffix _).subset hmem), hsegment, .inr ⟨_, rfl⟩⟩
  have hpair : header.toList ++ '.' :: (segment ++ '.' :: signature.toList) =
      (header.toList ++ '.' :: segment) ++ '.' :: signature.toList := by simp
  rw [Text.trim, tokenOf, String.toList_ofList, String.toList_ofList, hpair,
    Text.trimList_append_cons hpoint, Text.trimStartList, dropWhile_append_of_head hpoint]
  simp [Text.trimStartList]

theorem point_not_mem_of_spells {segment : List Char} {bytes : List UInt8}
    (h : Spells segment bytes) : '.' ∉ segment := by
  obtain ⟨digits, padding, rfl, hdigits, -⟩ := h
  rw [List.mem_append, not_or]
  exact ⟨Base64.not_mem_digits hdigits rfl, fun h => by cases List.eq_of_mem_replicate h⟩

theorem ne_nil_of_spells {segment : List Char} {text : String} {claims : Json}
    (h : Spells segment (Utf8.bytes text)) (hvalue : Json.ofText? text = some claims) :
    segment ≠ [] := by
  rintro rfl
  have hbytes : some [] = some (Utf8.bytes text) := segmentBytes?_eq_some_iff.mpr h
  have htext : some "" = some text := Utf8.text?_eq_some_iff.mpr (Option.some.inj hbytes)
  obtain rfl := Option.some.inj htext
  cases hvalue

theorem spells_segmentOf {text : String} {padding : Nat}
    (h : padding ≤ (3 - (Utf8.bytes text).length % 3) % 3) :
    Spells (segmentOf text padding) (Utf8.bytes text) :=
  ⟨_, padding, rfl, Base64.forall₂_isDigit_encodeUrl _, h⟩

/-- **A token is read as the claims that it carries**, and one that is put together from a header,
claims and a signature carries these claims, with all of its padding, a piece of it or none. -/
theorem decode?_iff_carries :
    (∀ token claims, decode? token = some claims ↔ Carries token claims) ∧
      ∀ (header text signature : String) (padding : Nat) (claims : Json),
        '.' ∉ header.toList → Json.ofText? text = some claims → claims.isObject = true →
          padding ≤ (3 - (Utf8.bytes text).length % 3) % 3 →
            decode? (tokenOf header (segmentOf text padding) signature) = some claims := by
  refine ⟨fun _ _ => decode?_eq_some_iff, ?_⟩
  intro header text signature padding claims hheader hvalue hobject hpadding
  have hspells := spells_segmentOf hpadding
  have hpart := secondPart_tokenOf signature hheader (point_not_mem_of_spells hspells)
  exact decode?_eq_some_iff.mpr
    ⟨_, text, hpart, ne_nil_of_spells hspells hvalue, hspells, hvalue, hobject⟩

/-- Of the two characters of padding, one is enough. -/
theorem decode?_iff_carries_padded :
    let text := "\x7b\"a\":\"?>\"\x7d"
    ∃ claims, Json.ofText? text = some claims ∧ claims.text = text ∧
      tokenOf "h" (segmentOf text 1) "s" = "h.eyJhIjoiPz4ifQ=.s" ∧
      decode? (tokenOf "h" (segmentOf text 1) "s") = some claims := by
  intro text
  have htext : (Json.ofText? text).map Json.text = some text := by decide +kernel
  have hobjects : (Json.ofText? text).all Json.isObject = true := by decide +kernel
  obtain ⟨claims, hvalue, hclaims⟩ := Option.map_eq_some_iff.mp htext
  have hobject : claims.isObject = true := by simpa [hvalue] using hobjects
  exact ⟨claims, hvalue, hclaims, by decide +kernel,
    decode?_iff_carries.2 "h" text "s" 1 claims (by decide) hvalue hobject (by decide +kernel)⟩

end IdToken

end QuotaBoard
