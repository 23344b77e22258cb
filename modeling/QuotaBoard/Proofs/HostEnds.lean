import Mathlib.Data.List.DropRight
import QuotaBoard.Url.Basic

/-!
# No host ends in a blank

A blank or control character at the end of a host or port is never read as a part of it.  The host
goes through four readers, and the character comes out at the end of each: as the last byte
(`Percent.decode_concat`), as the last character of the text (`Utf8.toList_of_text?_concat`), and,
since nothing composes with it, as the last character of the name (`Text.compose_concat`), where a
domain may not have it.  So an authority that ends in a blank is none (`Url.readAuthority_concat`).
-/

namespace QuotaBoard

variable {c : Char}

/-! ## 1. Texts that end in a blank -/

/-- What can be seen of the 33 characters up to the space. -/
theorem of_blank {p : Char → Prop} (h : ∀ n ≤ 32, p (Char.ofNat n)) (hc : c.toNat ≤ 32) : p c :=
  Char.ofNat_toNat c ▸ h c.toNat hc

theorem ne_of_blank {d : Char} (hc : c.toNat ≤ 32) (hd : 32 < d.toNat) : c ≠ d := by
  rintro rfl
  omega

namespace Utf8

theorem flatMap_of_text? {bs : List UInt8} {s : String} (h : text? bs = some s) :
    s.toList.flatMap String.utf8EncodeChar = bs := by
  unfold text? String.fromUTF8? at h
  split at h
  · rename_i hvalid
    obtain rfl := Option.some.inj h
    have hbytes : (String.fromUTF8 ⟨bs.toArray⟩ hvalid).toList.utf8Encode = ⟨bs.toArray⟩ :=
      String.utf8Encode_toList
    rw [← List.toList_data_toByteArray (l := List.flatMap _ _)]
    change (List.utf8Encode _).data.toList = bs
    rw [hbytes]
  · cases h

/-- A last byte below 128 is the whole character: longer characters end in a higher one. -/
theorem eq_of_getLast?_utf8EncodeChar {d : Char} (hc : c.toNat < 128)
    (h : (String.utf8EncodeChar d).getLast? = some (UInt8.ofNat c.toNat)) : d = c := by
  have hhigh : ∀ n, some (UInt8.ofNat (n % 64 + 128)) ≠ some (UInt8.ofNat c.toNat) := by
    intro n hn
    have := congrArg UInt8.toNat (Option.some.inj hn)
    simp only [UInt8.toNat_ofNat'] at this
    omega
  simp only [String.utf8EncodeChar] at h
  split at h
  · rename_i hd
    have hd' : d.toNat ≤ 127 := hd
    have hbyte : some (UInt8.ofNat d.toNat) = some (UInt8.ofNat c.toNat) := h
    have hcode := congrArg UInt8.toNat (Option.some.inj hbyte)
    simp only [UInt8.toNat_ofNat'] at hcode
    exact Char.toNat_inj.mp (by omega)
  · split at h
    · exact absurd h (hhigh _)
    · split at h <;> exact absurd h (hhigh _)

theorem toList_of_text?_concat {bs : List UInt8} {s : String} (hc : c.toNat < 128)
    (h : text? (bs ++ [UInt8.ofNat c.toNat]) = some s) : ∃ cs, s.toList = cs ++ [c] := by
  have hbytes := flatMap_of_text? h
  rcases List.eq_nil_or_concat' s.toList with hnil | ⟨cs, d, hcs⟩
  · rw [hnil] at hbytes
    simp at hbytes
  · rw [hcs, List.flatMap_append, List.flatMap_singleton] at hbytes
    have hlast := congrArg List.getLast? hbytes
    have hne : String.utf8EncodeChar d ≠ [] := by simp
    rw [List.getLast?_append_of_ne_nil _ hne, List.getLast?_concat] at hlast
    exact ⟨cs, by rw [hcs, eq_of_getLast?_utf8EncodeChar hc hlast]⟩

theorem bytes_of_blank (hc : c.toNat ≤ 32) :
    bytes (String.singleton c) = [UInt8.ofNat c.toNat] :=
  of_blank (p := fun c => bytes (String.singleton c) = [UInt8.ofNat c.toNat]) (by decide +kernel) hc

end Utf8

namespace Percent

theorem value?_of_blank (hc : c.toNat ≤ 32) : value? c = none :=
  of_blank (p := fun c => value? c = none) (by decide) hc

theorem decode_concat (hc : c.toNat ≤ 32) (cs : List Char) :
    decode (cs ++ [c]) = decode cs ++ [UInt8.ofNat c.toNat] := by
  have hvalue : value? c = none := value?_of_blank hc
  have hc' : decode [c] = [UInt8.ofNat c.toNat] := by
    rw [decode, Utf8.bytes_of_blank hc]
    · simp [decode]
    · simp
  fun_induction decode cs with
  | case1 => exact hc'
  | case2 a b rest high low ha hb ih =>
    simp [decode, ha, hb, ih]
  | case3 a b rest hab ih =>
    have hstep : decode ('%' :: a :: b :: (rest ++ [c])) =
        37 :: decode (a :: b :: rest ++ [c]) := by
      rw [decode]
      split
      · rename_i high low ha hb
        exact absurd hb (hab high low ha)
      · rfl
    exact hstep.trans (congrArg _ ih)
  | case4 d rest hd ih =>
    by_cases hpercent : d = '%'
    · -- too short for an escape, and not completed to one
      subst hpercent
      match rest, hd, ih with
      | [], _, _ => simpa [decode] using hc'
      | [a], _, ih =>
        have hpercent : Utf8.bytes (String.singleton '%') = [37] := by decide +kernel
        have hstep : decode ['%', a, c] = 37 :: decode [a, c] := by
          rw [decode]
          simp [hvalue]
        rw [hpercent]
        exact hstep.trans (congrArg _ ih)
      | a :: b :: rest, hd, _ => exact absurd rfl (hd a b rest rfl)
    · rw [List.cons_append, decode, ih, List.append_assoc]
      rintro a b rest' rfl
      exact absurd rfl hpercent

end Percent

namespace Text.Composition

theorem apart_of_lt (hc : c.toNat < 0xC0) (depth : Nat) : apart depth c = [c] := by
  have hparts : parts? c = none := by
    rw [parts?, guard, if_neg (Nat.not_le.mpr hc)]
    rfl
  cases depth with
  | zero => rfl
  | succ depth => rw [apart, hparts]

theorem markClass_of_lt (hc : c.toNat < 0xC0) : markClass c = 0 :=
  if_pos (by omega)

theorem join?_of_lt (hc : c.toNat < 0xC0) (a : Char) : join? a c = none := by
  have hlow : ¬ 0x300 ≤ c.toNat := by omega
  rw [join?, guard, if_neg hlow]
  rfl

theorem arrange_concat (hc : c.toNat < 0xC0) (cs : List Char) :
    arrange (cs ++ [c]) = arrange cs ++ [c] := by
  have hplace : ∀ placed, place c placed = c :: placed := by
    intro placed
    cases placed with
    | nil => rfl
    | cons d rest => simp [place, markClass_of_lt hc]
  rw [arrange, List.foldl_append, List.foldl_cons, List.foldl_nil, hplace, List.reverse_cons]
  rfl

theorem together_concat (hc : c.toNat < 0xC0) (base : Char) (marks cs : List Char) :
    together base marks (cs ++ [c]) = together base marks cs ++ [c] := by
  fun_induction together base marks cs with
  | case1 base marks =>
    simp [together, join?_of_lt hc, markClass_of_lt hc]
  | case2 base marks d rest reaches joined hjoin ih =>
    rw [List.cons_append, together.eq_def]
    simp only [reaches] at hjoin
    simp only [hjoin]
    exact ih
  | case3 base marks d rest reaches hjoin hclass ih =>
    simp only [reaches] at hjoin
    rw [List.cons_append, together.eq_def]
    simp only [hjoin, if_pos hclass, ih, List.append_assoc, List.cons_append]
  | case4 base marks d rest reaches hjoin hclass ih =>
    simp only [reaches] at hjoin
    rw [List.cons_append, together.eq_def]
    simp only [hjoin, if_neg hclass, ih]

theorem assemble_concat (hc : c.toNat < 0xC0) (cs : List Char) :
    assemble (cs ++ [c]) = assemble cs ++ [c] := by
  induction cs with
  | nil => simp [assemble, markClass_of_lt hc, together]
  | cons d rest ih =>
    rw [List.cons_append, assemble, assemble, together_concat hc, ih]
    split <;> rfl

end Text.Composition

theorem Text.compose_concat (hc : c.toNat < 0xC0) (cs : List Char) :
    compose (cs ++ [c]) = compose cs ++ [c] := by
  rw [compose, List.flatMap_append, List.flatMap_singleton, Composition.apart_of_lt hc,
    Composition.arrange_concat hc, Composition.assemble_concat hc]
  rfl

namespace Url

/-! ## 2. Hosts -/

namespace Domain

theorem meaningOf?_concat (hc : c.toNat ≤ 32) (cs : List Char) :
    meaningOf? (cs ++ [c]) = (meaningOf? cs).map (· ++ [c]) := by
  have hmeaning : meaning? c = some [c] := by
    have hlower : c.toLower = c := of_blank (p := fun c => c.toLower = c) (by decide) hc
    rw [meaning?, if_pos (by omega), hlower]
  rw [meaningOf?, meaningOf?, List.mapM_append]
  cases cs.mapM meaning? with
  | none => rfl
  | some meanings =>
    simp [hmeaning, List.mapM_cons, Text.compose_concat (show c.toNat < 0xC0 by omega)]

theorem forbidden_of_blank (hc : c.toNat ≤ 32) : forbidden c = true :=
  of_blank (p := fun c => forbidden c = true) (by decide) hc

/-- No domain ends in a blank. -/
theorem ascii?_concat (hc : c.toNat ≤ 32) (cs : List Char) : ascii? (cs ++ [c]) = none := by
  rw [ascii?, meaningOf?_concat hc]
  cases meaningOf? cs with
  | none => rfl
  | some name =>
    have hany : ¬ (!(name ++ [c]).any forbidden) = true := by
      simp [forbidden_of_blank hc]
    have hrefused : (guard ((!(name ++ [c]).any forbidden) = true) : Option Unit) = none :=
      if_neg hany
    change (guard ((!(name ++ [c]).any forbidden) = true) : Option Unit).bind _ = none
    rw [hrefused]
    rfl

end Domain

namespace Host

/-- **No host ends in a blank**, whatever stands before it. -/
theorem parse_concat (hc : c.toNat ≤ 32) (cs : List Char) (host : Host) :
    parse (cs ++ [c]) ≠ .ok host := by
  intro h
  unfold parse at h
  split at h
  · -- the bracket is not closed at the end
    rename_i rest hcs
    have hrest : unbracketed? rest = none := by
      refine if_neg fun hclosed => ?_
      have hlast := congrArg List.getLast? hcs
      rw [List.getLast?_concat, List.getLast?_cons, hclosed] at hlast
      exact ne_of_blank hc (by decide) (Option.some.inj hlast)
    simp [hrest] at h
  · have hnone : ((Utf8.text? (Percent.decode (cs ++ [c]))).bind fun s =>
        Domain.ascii? s.toList) = none := by
      rw [Percent.decode_concat hc]
      cases htext : Utf8.text? (Percent.decode cs ++ [UInt8.ofNat c.toNat]) with
      | none => rfl
      | some s =>
        obtain ⟨name, hname⟩ := Utf8.toList_of_text?_concat (by omega) htext
        rw [Option.bind_some, hname]
        exact Domain.ascii?_concat hc name
    rw [hnone] at h
    cases h

theorem numeral?_concat (hc : c.toNat ≤ 32) (base : Nat) (cs : List Char) :
    numeral? base (cs ++ [c]) = none := by
  rw [numeral?, List.foldlM_append]
  cases cs.foldlM (fun n c => do
    let d ← Percent.value? c
    guard (d < base)
    some (base * n + d)) 0 with
  | none => rfl
  | some n =>
    change ((Percent.value? c).bind _).bind _ = none
    rw [Percent.value?_of_blank hc]
    rfl

end Host

/-! ## 3. Authorities -/

theorem readPort_concat (hc : c.toNat ≤ 32) (cs : List Char) :
    readPort (cs ++ [c]) = .error .invalidPort := by
  rw [readPort, Host.numeral?_concat hc]

/-- A last character other than `@` belongs to the host and port. -/
theorem splitUserinfo_concat (hc : c ≠ '@') (cs : List Char) :
    (splitUserinfo (cs ++ [c])).2 = (splitUserinfo cs).2 ++ [c] := by
  unfold splitUserinfo
  by_cases h : cs.contains '@' = true
  · have h' : (cs ++ [c]).contains '@' = true := by simp_all
    rw [if_pos h, if_pos h']
    simp [hc]
  · have h' : ¬ (cs ++ [c]).contains '@' = true := by simp_all [eq_comm]
    rw [if_neg h, if_neg h']

theorem splitPort_concat (hc : c ≠ ':') : ∀ (inBrackets : Bool) (cs : List Char),
    splitPort inBrackets (cs ++ [c]) =
      match splitPort inBrackets cs with
      | (host, none) => (host ++ [c], none)
      | (host, some port) => (host, some (port ++ [c]))
  | inBrackets, [] => by simp [splitPort, hc]
  | inBrackets, d :: cs => by
    rw [List.cons_append, splitPort, splitPort]
    split
    · rfl
    · rw [splitPort_concat hc]
      rcases splitPort (d = '[' || (inBrackets && d ≠ ']')) cs with ⟨host, _ | port⟩ <;> rfl

/-- The port that stands after the colon, if there is one. -/
def portOf : Option (List Char) → Except ParseError (Option Nat)
  | none => .ok none
  | some digits => readPort (digits.takeWhile (· ≠ '\\'))

theorem Host.isEmpty_of_parse {cs : List Char} {host : Host} (h : Host.parse cs = .ok host) :
    host.isEmpty = false := by
  unfold Host.parse at h
  split at h
  · split at h
    · obtain rfl := Except.ok.inj h
      rfl
    · cases h
  · split at h
    · cases h
    · cases h
    · rename_i name hne _
      split at h
      · split at h
        · obtain rfl := Except.ok.inj h
          rfl
        · cases h
      · obtain rfl := Except.ok.inj h
        have hname : String.ofList name ≠ "" := fun h => hne (by simpa using h)
        simpa [Host.isEmpty] using hname

theorem Host.parse_nil : Host.parse [] = .error .emptyHost := by decide +kernel

/-- What the authority of a web address is made of; what follows it does not matter. -/
theorem readAuthority_of_special {scheme : String} (hspecial : isSpecial scheme = true)
    (cs : List Char) (followed : Bool) :
    readAuthority scheme cs followed =
      (Host.parse (splitPort false (splitUserinfo cs).2).1).bind fun host =>
        (portOf (splitPort false (splitUserinfo cs).2).2).map fun port =>
          ⟨(credentials ((splitUserinfo cs).1.getD [])).1,
            (credentials ((splitUserinfo cs).1.getD [])).2, host,
            if port = usualPort? scheme then none else port⟩ := by
  unfold readAuthority
  generalize splitUserinfo cs = split
  obtain ⟨userinfo, rest⟩ := split
  dsimp only
  cases hsplit : splitPort false rest with | mk hostText portText
  cases hostText with
  | nil =>
    rw [Host.parse_nil]
    simp only [hspecial]
    split <;> rfl
  | cons d hostText =>
    have hrest : rest.isEmpty = false := by
      cases rest with
      | nil => cases hsplit
      | cons => rfl
    simp only [hspecial, hrest, List.isEmpty_cons, Bool.and_false, Bool.false_and]
    cases hhost : Host.parse (d :: hostText) with
    | error e => rfl
    | ok host =>
      have hempty := Host.isEmpty_of_parse hhost
      dsimp only [bind, Except.bind]
      simp only [hempty, Bool.false_and]
      cases portText with
      | none => rfl
      | some digits =>
        change (readPort _).bind _ = (readPort _).map _
        cases readPort (digits.takeWhile (· ≠ '\\')) <;> rfl

theorem mem_of_mem_splitUserinfo {cs : List Char} {d : Char} (h : d ∈ (splitUserinfo cs).2) :
    d ∈ cs := by
  unfold splitUserinfo at h
  split at h
  · exact List.mem_reverse.mp ((List.takeWhile_prefix _).subset (List.mem_reverse.mp h))
  · exact h

theorem mem_of_mem_splitPort {d : Char} : ∀ {inBrackets : Bool} {cs digits : List Char},
    (splitPort inBrackets cs).2 = some digits → d ∈ digits → d ∈ cs
  | _, [], _, h, _ => nomatch h
  | inBrackets, e :: cs, digits, h, hd => by
    rw [splitPort] at h
    split at h
    · obtain rfl := Option.some.inj h
      exact List.mem_cons_of_mem e hd
    · exact List.mem_cons_of_mem e (mem_of_mem_splitPort h hd)

/-- **An authority that ends in a blank is none.** -/
theorem readAuthority_concat (hc : c.toNat ≤ 32) {scheme : String}
    (hspecial : isSpecial scheme = true) {cs : List Char} (hplain : '\\' ∉ cs) (followed : Bool)
    (a : Authority) : readAuthority scheme (cs ++ [c]) followed ≠ .ok a := by
  have hat : c ≠ '@' := ne_of_blank hc (by decide)
  have hcolon : c ≠ ':' := ne_of_blank hc (by decide)
  rw [readAuthority_of_special hspecial, splitUserinfo_concat hat, splitPort_concat hcolon]
  cases hsplit : splitPort false (splitUserinfo cs).2 with | mk hostText portText
  intro h
  cases portText with
  | none =>
    -- the blank ends the host
    cases hhost : Host.parse (hostText ++ [c]) with
    | error e => simp [hhost, Except.bind] at h
    | ok host => exact Host.parse_concat hc hostText host hhost
  | some digits =>
    -- the blank ends the port
    have hdigits : ∀ d ∈ digits ++ [c], decide (d ≠ '\\') = true := by
      intro d hd
      rw [decide_eq_true_eq]
      rintro rfl
      rcases List.mem_append.mp hd with hd | hd
      · have hport : (splitPort false (splitUserinfo cs).2).2 = some digits :=
          congrArg Prod.snd hsplit
        exact hplain (mem_of_mem_splitUserinfo (mem_of_mem_splitPort hport hd))
      · exact ne_of_blank hc (by decide) (List.mem_singleton.mp hd).symm
    have hport : portOf (some (digits ++ [c])) = .error .invalidPort := by
      rw [portOf, List.takeWhile_eq_self_iff.mpr hdigits, readPort_concat hc]
    simp only [hport] at h
    cases hhost : Host.parse hostText <;> rw [hhost] at h <;> cases h

end Url

end QuotaBoard
