import QuotaBoard.Proofs.Endpoints

/-!
# An address that is kept is one that is taken

An override is judged with the slashes at its end and kept without them, so what is kept was never
judged itself.  It does not have to be.  What comes off the end of an accepted text, slashes and the
blanks in front of them, is behind its authority or at the end of it, and no authority ends in a
blank (`Url.readHierarchical_of_slashes`).  So the kept text is a web address of the same server
(`Url.parse_dropTrailingSlashes`), every client takes it, and as an override it gives itself exactly
if there are no blanks around it (`Config.override_kept`).
-/

namespace QuotaBoard

/-! ## 1. Texts without their ends -/

/-- A text in front of an end without some character holds all of the text up to that character. -/
theorem eq_append_cons_of_append_eq {c : Char} {front back before after : List Char}
    (hc : c ∉ back) (h : front ++ back = before ++ c :: after) :
    ∃ rest, front = before ++ c :: rest ∧ after = rest ++ back := by
  rcases List.append_eq_append_iff.mp h with ⟨between, -, hback⟩ | ⟨between, hfront, hafter⟩
  · exact absurd (by simp [hback]) hc
  · cases between with
    | nil => exact absurd (hafter ▸ List.mem_cons_self : c ∈ [] ++ back) hc
    | cons d rest =>
      obtain ⟨rfl, rfl⟩ := List.cons.inj hafter
      exact ⟨rest, hfront, rfl⟩

namespace Text

/-- The slashes at the end of a text that has some, and what is before them. -/
theorem eq_dropTrailingSlashes_append (s : String) :
    ∃ slashes : List Char, s.toList = (dropTrailingSlashes s).toList ++ slashes ∧
      ∀ c ∈ slashes, c = '/' := by
  refine ⟨s.toList.rtakeWhile (· = '/'), ?_, fun c hc => by simpa using List.mem_rtakeWhile_imp hc⟩
  rw [dropTrailingSlashes, String.toList_ofList]
  exact List.rdropWhile_append_rtakeWhile.symm

theorem dropTrailingSlashes_idempotent (s : String) :
    dropTrailingSlashes (dropTrailingSlashes s) = dropTrailingSlashes s := by
  have hidem : (s.toList.rdropWhile (· = '/')).rdropWhile (· = '/') =
      s.toList.rdropWhile (· = '/') := List.rdropWhile_idempotent _ _
  rw [dropTrailingSlashes, dropTrailingSlashes, String.toList_ofList]
  exact congrArg String.ofList hidem

theorem sublist_trimList (cs : List Char) : (trimList cs).Sublist cs :=
  (List.rdropWhile_prefix isBlank _).sublist.trans (List.dropWhile_suffix isBlank).sublist

/-- A text is only what trimming and dropping leave of it if trimming leaves all of it. -/
theorem trim_eq_of_eq_dropTrailingSlashes {s : String} (h : s = dropTrailingSlashes (trim s)) :
    trim s = s := by
  obtain ⟨slashes, hslashes, -⟩ := eq_dropTrailingSlashes_append (trim s)
  rw [← h] at hslashes
  have htrim : (trim s).toList = trimList s.toList := String.toList_ofList
  have hshorter := (sublist_trimList s.toList).length_le
  have hlonger := congrArg List.length hslashes
  rw [List.length_append] at hlonger
  have hall : trimList s.toList = s.toList :=
    (sublist_trimList s.toList).eq_of_length_le (by rw [← htrim]; omega)
  rw [trim, hall, String.ofList_toList]

end Text

namespace Url

/-! ## 2. Without the slashes at the end -/

/-- Slashes at the end of a text are in it when it is read, behind what is read without them and
what that loses at its end. -/
theorem clean_append_slashes {cs slashes : List Char} (hne : slashes ≠ [])
    (hslashes : ∀ c ∈ slashes, c = '/') (hkept : clean cs ≠ []) :
    clean (cs ++ slashes) = clean cs ++ (looseEnd cs ++ slashes) := by
  have hplain : ∀ c ∈ slashes, isMargin c = false ∧ isKept c = true := by
    intro c hc
    rw [hslashes c hc]
    exact ⟨by decide, by decide⟩
  rw [clean_append hne hplain, front_eq_clean_append hkept, List.append_assoc]

/-- Two addresses of one server, entered by one user. -/
structure SameServer (u v : Url) : Prop where
  scheme : u.scheme = v.scheme
  username : u.username = v.username
  password : u.password = v.password
  host : u.host = v.host
  port : u.port = v.port

/-- The server is the authority's, whatever follows that. -/
theorem sameServer_ofParts (scheme : String) (authority : Option Authority) (path path' : String)
    (query query' fragment fragment' : Option (List Char)) :
    SameServer (ofParts scheme authority path query fragment)
      (ofParts scheme authority path' query' fragment') :=
  ⟨rfl, rfl, rfl, rfl, rfl⟩

/-- An authority that is followed by slashes, with blanks in between at most, is followed by them at
once: it would end in a blank otherwise, and none does. -/
theorem readHierarchical_of_slashes {s scheme : String} (hspecial : isSpecial scheme = true)
    {address slashes : List Char} (hne : slashes ≠ []) (hslashes : ∀ c ∈ slashes, c = '/') {u : Url}
    (h : readHierarchical scheme (address ++ (looseEnd s.toList ++ slashes)) = .ok u) :
    ∃ v, readHierarchical scheme address = .ok v ∧ SameServer u v := by
  obtain ⟨c, slashes, rfl⟩ := List.exists_cons_of_ne_nil hne
  obtain rfl := hslashes c List.mem_cons_self
  have hends : (!endsAuthority true '/') = false := by decide
  have hsame :
      (address ++ (looseEnd s.toList ++ '/' :: slashes)).takeWhile (!endsAuthority true ·) =
        (address ++ looseEnd s.toList).takeWhile (!endsAuthority true ·) := by
    rw [← List.append_assoc, takeWhile_append_of_head hends]
  rw [readHierarchical_of_special hspecial, hsame] at h
  obtain ⟨a, hauthority, rfl⟩ := readAfter_eq_ok_iff.mp h
  have halone : (address ++ looseEnd s.toList).takeWhile (!endsAuthority true ·) =
      address.takeWhile (!endsAuthority true ·) := by
    by_cases hloose : looseEnd s.toList = []
    · rw [hloose, List.append_nil]
    · -- the blanks do not touch the authority, which ends before them
      by_cases hplain : ∀ c ∈ address, endsAuthority true c = false
      · exact absurd hauthority (readAuthority_append_looseEnd hspecial hloose hplain a)
      · push Not at hplain
        obtain ⟨c, hc, hend⟩ := hplain
        exact takeWhile_append_of_mem hc (by simpa using hend) _
  rw [halone] at hauthority
  rw [readHierarchical_of_special hspecial]
  exact ⟨_, readAfter_eq_ok_iff.mpr ⟨a, hauthority, rfl⟩, sameServer_ofParts ..⟩

/-- What follows the scheme: the slashes that are skipped do not reach the ones at the end, unless
there is nothing in between. -/
theorem dropWhile_isSlash_append {s : String} {rest slashes : List Char}
    (hslashes : ∀ c ∈ slashes, c = '/')
    (hne : (rest ++ (looseEnd s.toList ++ slashes)).dropWhile isSlash ≠ []) :
    (rest ++ (looseEnd s.toList ++ slashes)).dropWhile isSlash =
      rest.dropWhile isSlash ++ (looseEnd s.toList ++ slashes) := by
  rw [List.dropWhile_append] at hne ⊢
  split at hne
  · rename_i hempty
    rw [if_pos hempty, List.isEmpty_iff.mp hempty, List.nil_append]
    cases hloose : looseEnd s.toList with
    | nil =>
      -- nothing but slashes
      rw [hloose, List.nil_append, Ne, List.dropWhile_eq_nil_iff] at hne
      exfalso
      apply hne
      intro c hc
      rw [hslashes c hc]
      decide
    | cons c more =>
      have hblank : c.toNat ≤ 32 := toNat_of_mem_looseEnd (hloose ▸ List.mem_cons_self)
      have hslash : isSlash c = false :=
        of_blank (p := fun c => isSlash c = false) (by decide) hblank
      rw [List.cons_append, List.dropWhile_cons_of_neg (by simp [hslash])]
  · rename_i hempty
    rw [if_neg hempty]

/-- **A web address without the slashes at its end** is one of the same server. -/
theorem parse_dropTrailingSlashes {s : String} {u : Url} (hparse : parse s = .ok u)
    (hweb : u.isWeb = true) :
    ∃ v, parse (Text.dropTrailingSlashes s) = .ok v ∧ v.isWeb = true ∧ SameServer u v := by
  obtain ⟨slashes, hs, hslashes⟩ := Text.eq_dropTrailingSlashes_append s
  generalize Text.dropTrailingSlashes s = t at hs
  by_cases hne : slashes = []
  · rw [hne, List.append_nil, String.toList_inj] at hs
    exact ⟨u, hs ▸ hparse, hweb, rfl, rfl, rfl, rfl, rfl⟩
  obtain ⟨scheme, rest, hsplit, hscheme, hread⟩ := parse_web hparse hweb
  have hspecial := isSpecial_of_web hscheme
  obtain ⟨name, hclean, hname, halpha, hlower⟩ := splitScheme?_eq_some_iff.mp hsplit
  -- the colon is in front of the slashes, and of the blanks before them
  have hcolon : ':' ∉ looseEnd t.toList ++ slashes := by
    intro hmem
    rcases List.mem_append.mp hmem with h | h
    · exact absurd (toNat_of_mem_looseEnd h) (by decide)
    · exact absurd (hslashes _ h) (by decide)
  have hkept : ':' ∈ clean t.toList := by
    have hmem : ':' ∈ s.toList := mem_of_mem_clean (by simp [hclean])
    rw [hs, List.mem_append] at hmem
    exact (mem_clean_iff (by decide)).mpr
      (hmem.resolve_right fun h => hcolon (List.mem_append_right _ h))
  rw [hs, clean_append_slashes hne hslashes (List.ne_nil_of_mem hkept)] at hclean
  obtain ⟨rest', hclean', rfl⟩ := eq_append_cons_of_append_eq hcolon hclean
  have haddress : (rest' ++ (looseEnd t.toList ++ slashes)).dropWhile isSlash ≠ [] := by
    intro hnil
    rw [hnil] at hread
    exact readHierarchical_nil hspecial u hread
  rw [dropWhile_isSlash_append hslashes haddress] at hread
  obtain ⟨v, hv, hserver⟩ := readHierarchical_of_slashes hspecial hne hslashes hread
  have hsplit' : splitScheme? (clean t.toList) = some (scheme, rest') :=
    splitScheme?_eq_some_iff.mpr ⟨name, hclean', hname, halpha, hlower⟩
  have hparse' : parse t = .ok v := by
    rw [parse, hsplit']
    exact (readScheme_of_web hscheme rest').trans hv
  refine ⟨v, hparse', ?_, hserver⟩
  rw [isWeb, ← hserver.scheme]
  exact hweb

end Url

open Management (Client)
open Text (Blank)

namespace Config

/-! ## 3. Overrides -/

theorem GivesAddress.override_baseUrl {said address : String} (h : GivesAddress said address)
    (c : Config) (key : Option String) :
    (c.override ⟨some said, key⟩).management.baseUrl = address := by
  have hgives : usableUrl? said = some address := usableUrl?_eq_some_iff.mpr h
  rw [override, Option.bind_some, hgives, Option.getD_some]

/-- An address that was kept gives itself exactly if it has no blanks around it. -/
theorem GivesAddress.gives_itself_iff {said address : String} (h : GivesAddress said address)
    (hweb : Url.isWebAddress address = true) :
    GivesAddress address address ↔ Text.trim address = address := by
  obtain ⟨-, -, haddress⟩ := h
  have hbare : Text.dropTrailingSlashes address = address := by
    rw [haddress, Text.dropTrailingSlashes_idempotent]
  constructor
  · rintro ⟨-, -, hitself⟩
    exact Text.trim_eq_of_eq_dropTrailingSlashes hitself
  · intro htrim
    have hblank : ¬ Blank address := by
      have hblank := Url.not_blank_dropTrailingSlashes hweb
      rwa [hbare] at hblank
    rw [GivesAddress, htrim, hbare]
    exact ⟨hblank, hweb, rfl⟩

/-- **What is kept of an override that is taken** is an address that is taken as well: it is that of
a web server, of the one that was said, and every client takes it.  As an override it is kept as it
is, unless there are blanks around it. -/
theorem override_kept {said address : String} (h : GivesAddress said address) :
    (∀ (c : Config) (key : Option String),
      (c.override ⟨some said, key⟩).management.baseUrl = address) ∧
    Url.isWebAddress address = true ∧
    (∃ u v, Url.parse (Text.trim said) = .ok u ∧ Url.parse address = .ok v ∧ u.SameServer v) ∧
    (∀ key, Client.open? address key = .ok ⟨address, key⟩) ∧
    (GivesAddress address address ↔ Text.trim address = address) ∧
    (Text.trim address = address → ∀ (c : Config) (key : Option String),
      (c.override ⟨some address, key⟩).management.baseUrl = address) := by
  obtain ⟨u, hu, hweb⟩ : ∃ u, Url.parse (Text.trim said) = .ok u ∧ u.isWeb = true := by
    have hsaid := h.2.1
    unfold Url.isWebAddress at hsaid
    cases hparse : Url.parse (Text.trim said) with
    | error e => simp [hparse] at hsaid
    | ok u => exact ⟨u, rfl, by simpa [hparse] using hsaid⟩
  obtain ⟨v, hv, hweb', hserver⟩ := Url.parse_dropTrailingSlashes hu hweb
  rw [← h.2.2] at hv
  have haddress : Url.isWebAddress address = true := by
    rw [Url.isWebAddress, hv]
    exact hweb'
  have hagain := h.gives_itself_iff haddress
  exact ⟨h.override_baseUrl, haddress, ⟨u, v, hu, hv, hserver⟩,
    fun key => Client.open?_eq_ok_iff.mpr ⟨rfl, v, hv, hweb'⟩, hagain,
    fun htrim => (hagain.mpr htrim).override_baseUrl⟩

/-- A user, an IPv6 host, a backslash among the slashes in front, and slashes at the end. -/
theorem override_kept_slashes :
    GivesAddress "\thttp:/\\user:p@[::1]:8080/x//\n" "http:/\\user:p@[::1]:8080/x" ∧
      Url.isWebAddress "http:/\\user:p@[::1]:8080/x" = true ∧
      Client.open? "http:/\\user:p@[::1]:8080/x" "k" =
        .ok ⟨"http:/\\user:p@[::1]:8080/x", "k"⟩ ∧
      (default.override ⟨some "http:/\\user:p@[::1]:8080/x", none⟩).management.baseUrl =
        "http:/\\user:p@[::1]:8080/x" := by
  have hgives : GivesAddress "\thttp:/\\user:p@[::1]:8080/x//\n"
      "http:/\\user:p@[::1]:8080/x" := by
    refine ⟨by decide +kernel, by decide +kernel, by decide +kernel⟩
  obtain ⟨-, hweb, -, hopen, -, hagain⟩ := override_kept hgives
  exact ⟨hgives, hweb, hopen "k", hagain (by decide +kernel) default none⟩

end Config

end QuotaBoard
