import QuotaBoard.Management.Wire
import QuotaBoard.Proofs.ReadBack

/-!
# A body in place and a body as a text

The management API hands a vendor's reply on with its body in place, as JSON, or as a text.  Either
way the reply is made from a text, which is trimmed and read.  A value in place is written for that,
and what is written has no blanks around it (`trim_text`) and is read back as the value.  So both
make the same reply (`CallResult.reply_inline_or_text`), with the same text.

Two values in place are no such case: null stands for no body at all, and a text for the body that
it spells.
-/

namespace QuotaBoard

namespace Text

/-- A text that neither starts nor ends with a blank is trimmed already. -/
theorem trimList_of_ends {cs : List Char} (hfirst : ∀ c ∈ cs.head?, isBlank c = false)
    (hlast : ∀ c ∈ cs.getLast?, isBlank c = false) : trimList cs = cs := by
  have hdrop : ∀ cs : List Char, (∀ c ∈ cs.head?, isBlank c = false) →
      cs.dropWhile isBlank = cs := by
    intro cs hcs
    cases cs with
    | nil => rfl
    | cons c rest => exact List.dropWhile_cons_of_neg (by simp [hcs c rfl])
  have hend : trimEndList cs = cs := by
    rw [trimEndList, hdrop _ (by simpa using hlast), List.reverse_reverse]
  rw [trimList, trimStartList, hdrop cs hfirst, hend]

end Text

namespace Json

/-- The text of a value has no blanks around it. -/
theorem trim_text (v : Json) : Text.trim v.text = v.text := by
  have henclosed : ∀ (first last : Char) (inner : List Char), Text.isBlank first = false →
      Text.isBlank last = false →
      Text.trimList (first :: inner ++ [last]) = first :: inner ++ [last] := by
    intro first last inner hfirst hlast
    refine Text.trimList_of_ends ?_ ?_
    · simpa using hfirst
    · intro c hc
      obtain rfl : last = c := Option.some.inj (List.getLast?_concat.symm.trans hc)
      exact hlast
  rw [Text.trim, text, String.toList_ofList]
  congr 1
  cases v with
  | null => rfl
  | bool b => cases b <;> rfl
  | number n =>
    have hnumeral : ∀ c ∈ n.chars, Text.isBlank c = false :=
      fun c hc => not_blank_of_isNumeral (n.isNumeral_of_mem_chars c hc)
    exact Text.trimList_of_ends (fun c hc => hnumeral c (List.mem_of_head? hc))
      fun c hc => hnumeral c (List.mem_of_getLast? hc)
  | string s => exact henclosed '"' '"' _ rfl rfl
  | array items => exact henclosed '[' ']' _ rfl rfl
  | object members => exact henclosed '{' '}' _ rfl rfl

/-- The integers in a value that was read fit. -/
theorem Canonical.fits {v : Json} (hv : v.Canonical) {k : Int} (h : v.HasNumber (.integer k)) :
    Number.fits k := by
  induction hv with
  | null | bool _ | double _ | string _ => cases h
  | integer n hfits =>
    cases h
    exact hfits
  | array items _ ih =>
    cases h with
    | item hv h => exact ih _ hv h
  | object members _ _ ih =>
    cases h with
    | member hm h => exact ih _ hm h

/-- A text that was written is read back from a body. -/
theorem ofBody?_text {v : Json} (hv : v.Canonical) (hlevels : v.NestsUpTo Document.nestingLimit)
    (hnumbers : ∀ n, v.HasNumber n → n.Survives) : ofBody? v.text = some v := by
  have hread := ofText?_text hv hlevels hnumbers
  have hnonempty : v.text.isEmpty = false := by
    rw [Bool.eq_false_iff]
    intro hempty
    rw [String.isEmpty_iff.mp hempty] at hread
    cases hread
  rw [ofBody?, Text.trimmed?, trim_text, hnonempty]
  exact hread

end Json

namespace Management

open Json (Number)

/-- **A body in place and its text make the same reply**, and what a request carries is read back
too.  The numbers are integers: whether a double is read back is a question of its digits.  This
starts from a result that is at hand: a body in place that nests as deep as a text may is refused
where the result is read, for there it stands one level deeper. -/
theorem CallResult.reply_inline_or_text {v : Json} (hv : v.Canonical)
    (hlevels : v.NestsUpTo Document.nestingLimit)
    (hwhole : ∀ n, v.HasNumber n → ∃ k, n = .integer k) (hnull : v ≠ .null)
    (hstring : ∀ s, v ≠ .string s) (status : UInt16) (header header' : List (String × Json)) :
    (⟨status, header, v⟩ : CallResult).reply = .ofJson status v ∧
      (⟨status, header', .string v.text⟩ : CallResult).reply = .ofJson status v ∧
      ∀ authIndex url, (ApiRequest.post authIndex url v).body.bind Json.ofText? = some v := by
  have hnumbers : ∀ n, v.HasNumber n → n.Survives := by
    intro n hn
    obtain ⟨k, rfl⟩ := hwhole n hn
    exact Number.survives_integer (hv.fits hn)
  have hbody : Json.ofBody? v.text = some v := Json.ofBody?_text hv hlevels hnumbers
  have hinline : (⟨status, header, v⟩ : CallResult).bodyText = v.text := by
    unfold CallResult.bodyText
    split
    · rename_i heq
      exact absurd heq hnull
    · rename_i s heq
      exact absurd heq (hstring s)
    · rfl
  refine ⟨?_, ?_, fun authIndex url => Json.ofText?_text hv hlevels hnumbers⟩
  · rw [CallResult.reply, hinline, ApiReply.ofText, hbody, ApiReply.ofJson]
  · rw [CallResult.reply, CallResult.bodyText, ApiReply.ofText, hbody, ApiReply.ofJson]

/-- The body of a refusal, with a text that needs escapes and an integer that no double has. -/
def sampleRefusal : Json :=
  .object [("error", .array [.string "out of\n\"quota\" \u0001", .ofInt (-9007199254740993)])]

theorem CallResult.reply_inline_or_text_refused :
    (⟨429, [], sampleRefusal⟩ : CallResult).reply = .ofJson 429 sampleRefusal ∧
      (⟨429, [], .string sampleRefusal.text⟩ : CallResult).reply = .ofJson 429 sampleRefusal ∧
      ∀ authIndex url,
        (ApiRequest.post authIndex url sampleRefusal).body.bind Json.ofText? =
          some sampleRefusal := by
  have hcanonical : sampleRefusal.Canonical := by
    refine .object _ (List.pairwise_singleton ..) (List.forall_mem_singleton.mpr ?_)
    refine .array _ (List.forall_mem_cons.mpr ⟨.string _, List.forall_mem_singleton.mpr ?_⟩)
    exact .integer _ (by decide)
  have hlevels : sampleRefusal.NestsUpTo Document.nestingLimit := by
    refine .object (List.forall_mem_singleton.mpr (.array (List.forall_mem_cons.mpr ?_)))
    exact ⟨.string _ _, List.forall_mem_singleton.mpr (.number _ _)⟩
  have hwhole : ∀ n, sampleRefusal.HasNumber n → ∃ k, n = .integer k := by
    simp [sampleRefusal, Json.ofInt]
  exact reply_inline_or_text hcanonical hlevels hwhole nofun nofun 429 [] []

end Management

end QuotaBoard
