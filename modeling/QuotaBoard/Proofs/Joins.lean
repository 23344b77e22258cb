import Mathlib.Data.List.DropRight
import QuotaBoard.Proofs.HostEnds
import QuotaBoard.Proofs.Layers
import QuotaBoard.Proofs.Scanning

/-!
# A path written after an address

Whoever writes a path after the text of an address, less the slashes at its end, means to name that
path at the server of the address.  That is not what the text always says: a query or fragment takes
in what follows it, and a blank that is dropped at the end of a text is not dropped in the middle.

`ReadsOn` says how the whole is read: the authority is that of the address with its loose end
(`looseEnd`), and the tail is that of the address with the path after it.  What becomes of the
path is then a matter of the tail (`readAfter_leadsTo`, `not_mem_of_leadsTo`), and what becomes of
the server is a matter of the loose end (`takeWhile_append_looseEnd`, and `readAuthority_concat` for
what goes wrong).  `parse_append_leadsTo_iff` puts the two together: the path is reached exactly if
the address `TakesPath`.
-/

namespace QuotaBoard

namespace Url

/-! ## 1. Scanning up to a character -/

/-- What follows the first of its characters, with what is written after it. -/
theorem dropWhile_ne_append {d : Char} {cs : List Char} (h : d ∈ cs) :
    ∃ after, ∀ path, (cs ++ path).dropWhile (· ≠ d) = d :: (after ++ path) := by
  obtain ⟨before, after, rfl, hbefore⟩ := List.eq_append_cons_of_mem h
  refine ⟨after, fun path => ?_⟩
  rw [List.append_assoc, List.cons_append, dropWhile_append_of_head (by simp),
    dropWhile_ne_of_not_mem hbefore, List.nil_append]

/-! ## 2. What a text is without its margins -/

/-- The characters that are dropped at the ends of a text. -/
def isMargin (c : Char) : Bool := c.toNat ≤ 32

/-- The characters that are dropped at the ends only; tabs and line breaks are dropped anywhere. -/
def isKept (c : Char) : Bool := c ≠ '\t' ∧ c ≠ '\n' ∧ c ≠ '\r'

theorem clean_eq (cs : List Char) :
    clean cs = ((cs.dropWhile isMargin).rdropWhile isMargin).filter isKept := rfl

/-- What is left of a text in front of another one. -/
def front (cs : List Char) : List Char := (cs.dropWhile isMargin).filter isKept

/-- What the end of a text loses because it is the end. -/
def looseEnd (cs : List Char) : List Char := (cs.rtakeWhile isMargin).filter isKept

theorem toNat_of_mem_looseEnd {cs : List Char} {c : Char} (h : c ∈ looseEnd cs) :
    c.toNat ≤ 32 := by
  rw [looseEnd, List.mem_filter] at h
  have hmargin : isMargin c = true := List.mem_rtakeWhile_imp h.1
  exact of_decide_eq_true hmargin

theorem isKept_of_not_margin {c : Char} (hmargin : isMargin c = false) : isKept c = true := by
  have hcode : ¬ c.toNat ≤ 32 := of_decide_eq_false hmargin
  have hne : ∀ d : Char, d.toNat ≤ 32 → c ≠ d := by
    rintro d hd rfl
    exact hcode hd
  simp [isKept, hne '\t' (by decide), hne '\n' (by decide), hne '\r' (by decide)]

theorem mem_clean_iff {cs : List Char} {c : Char} (hmargin : isMargin c = false) :
    c ∈ clean cs ↔ c ∈ cs := by
  refine ⟨mem_of_mem_clean, fun hc => ?_⟩
  have hfront : c ∈ (cs.dropWhile isMargin).reverse :=
    List.mem_reverse.mpr (mem_dropWhile_of_mem hc hmargin)
  rw [clean_eq, List.mem_filter, List.rdropWhile, List.mem_reverse]
  exact ⟨mem_dropWhile_of_mem hfront hmargin, isKept_of_not_margin hmargin⟩

theorem front_eq_clean_append {cs : List Char} (h : clean cs ≠ []) :
    front cs = clean cs ++ looseEnd cs := by
  have hsome : (cs.dropWhile isMargin).rdropWhile isMargin ≠ [] := by
    intro hnil
    rw [clean_eq, hnil] at h
    exact h rfl
  have hend : (cs.dropWhile isMargin).rtakeWhile isMargin = cs.rtakeWhile isMargin := by
    rw [List.rtakeWhile, List.rtakeWhile]
    congr 1
    conv_rhs => rw [← List.takeWhile_append_dropWhile (p := isMargin) (l := cs)]
    rw [List.reverse_append, List.takeWhile_append, if_neg]
    intro hlength
    have hall := (List.takeWhile_prefix isMargin).eq_of_length hlength
    rw [List.takeWhile_eq_self_iff] at hall
    exact hsome (List.rdropWhile_eq_nil_iff.mpr fun c hc => hall c (List.mem_reverse.mpr hc))
  rw [front, clean_eq, looseEnd, ← hend, ← List.filter_append, List.rdropWhile_append_rtakeWhile]

theorem clean_append {path : List Char} (hne : path ≠ [])
    (hpath : ∀ c ∈ path, isMargin c = false ∧ isKept c = true) (cs : List Char) :
    clean (cs ++ path) = front cs ++ path := by
  obtain ⟨d, rest, rfl⟩ := List.exists_cons_of_ne_nil hne
  have hd : isMargin d = false := (hpath d List.mem_cons_self).1
  have hlast : (cs.dropWhile isMargin ++ d :: rest).rdropWhile isMargin =
      cs.dropWhile isMargin ++ d :: rest := by
    rw [List.rdropWhile_eq_self_iff]
    intro hnil
    rw [List.getLast_append_of_ne_nil _ (List.cons_ne_nil d rest)]
    have := (hpath _ (List.getLast_mem (List.cons_ne_nil d rest))).1
    simp [this]
  have hfilter : (d :: rest).filter isKept = d :: rest :=
    List.filter_eq_self.mpr fun c hc => (hpath c hc).2
  rw [clean_eq, dropWhile_append_of_head hd, hlast, List.filter_append, hfilter, front]

/-- The slashes that are taken off the end of an address are there again in front of a path. -/
theorem front_append_slashes {cs : List Char} (h : clean cs ≠ []) :
    front (cs.rdropWhile (· = '/')) ++ cs.rtakeWhile (· = '/') = clean cs ++ looseEnd cs := by
  have hcs : cs.rdropWhile (· = '/') ++ cs.rtakeWhile (· = '/') = cs :=
    List.rdropWhile_append_rtakeWhile
  by_cases hslashes : cs.rtakeWhile (· = '/') = []
  · rw [hslashes, List.append_nil] at hcs
    rw [hslashes, List.append_nil, hcs, front_eq_clean_append h]
  · have hall : ∀ c ∈ cs.rtakeWhile (· = '/'), isMargin c = false ∧ isKept c = true := by
      intro c hc
      obtain rfl : c = '/' := by simpa using List.mem_rtakeWhile_imp hc
      exact ⟨by decide, by decide⟩
    have hloose : looseEnd cs = [] := by
      obtain ⟨hne, hlast⟩ : ∃ hne : cs ≠ [], cs.getLast hne = '/' := by
        simpa [List.rtakeWhile_eq_nil_iff] using hslashes
      have hmargin : cs.rtakeWhile isMargin = [] := by
        rw [List.rtakeWhile_eq_nil_iff]
        intro _
        rw [hlast]
        decide
      rw [looseEnd, hmargin, List.filter_nil]
    rw [hloose, List.append_nil, ← clean_append hslashes hall, hcs]

/-! ## 3. Web addresses -/

theorem splitScheme?_eq_some_iff {cs rest : List Char} {scheme : String} :
    splitScheme? cs = some (scheme, rest) ↔
      ∃ name, cs = name ++ ':' :: rest ∧ (∀ c ∈ name, isSchemeChar c = true) ∧
        (∃ c ∈ name.head?, c.isAlpha = true) ∧ scheme = String.ofList (name.map Char.toLower) := by
  constructor
  · intro h
    unfold splitScheme? at h
    split at h
    · rename_i c cs'
      split at h
      · rename_i halpha
        split at h
        · rename_i rest' hrest
          obtain ⟨rfl, rfl⟩ := Prod.mk.inj (Option.some.inj h)
          refine ⟨(c :: cs').takeWhile isSchemeChar, ?_, fun d hd => List.mem_takeWhile_imp hd, ?_,
            rfl⟩
          · rw [← hrest, List.takeWhile_append_dropWhile]
          · have hc : isSchemeChar c = true := by
              simp [isSchemeChar, Char.isAlphanum, halpha]
            exact ⟨c, by simp [hc], halpha⟩
        · cases h
      · cases h
    · cases h
  · rintro ⟨name, rfl, hname, ⟨c, hc, halpha⟩, rfl⟩
    have hcolon : isSchemeChar ':' = false := by decide
    obtain ⟨name', rfl⟩ : ∃ name', name = c :: name' := by
      cases name with
      | nil => cases hc
      | cons d name' => exact ⟨name', by rw [Option.some.inj hc]⟩
    have htake := takeWhile_append_of_head hcolon (c :: name') rest
    have hdrop := dropWhile_append_of_head hcolon (c :: name') rest
    rw [List.takeWhile_eq_self_iff.mpr hname] at htake
    rw [List.dropWhile_eq_nil_iff.mpr hname, List.nil_append] at hdrop
    rw [List.cons_append] at htake hdrop ⊢
    simp only [splitScheme?, halpha, if_true, htake, hdrop]

theorem readScheme_scheme {scheme : String} {cs : List Char} {u : Url}
    (h : readScheme scheme cs = .ok u) : u.scheme = scheme := by
  have hhierarchical : ∀ {cs : List Char}, readHierarchical scheme cs = .ok u →
      u.scheme = scheme := by
    intro cs h
    unfold readHierarchical at h
    dsimp only at h
    cases hauthority : readAuthority scheme (cs.takeWhile (!endsAuthority (isSpecial scheme) ·))
        (!(cs.dropWhile (!endsAuthority (isSpecial scheme) ·)).isEmpty) with
    | error e => rw [hauthority] at h; cases h
    | ok a => rw [hauthority] at h; obtain rfl := Except.ok.inj h; rfl
  unfold readScheme at h
  split at h
  · rename_i hfile
    rw [hfile]
    unfold readFile at h
    split at h
    · split at h
      · dsimp only at h
        split at h
        · obtain rfl := Except.ok.inj h; rfl
        · cases hhost : Host.parse _ with
          | error e => rw [hhost] at h; cases h
          | ok host => rw [hhost] at h; obtain rfl := Except.ok.inj h; rfl
      · obtain rfl := Except.ok.inj h; rfl
    · obtain rfl := Except.ok.inj h; rfl
  · split at h
    · exact hhierarchical h
    · split at h
      · exact hhierarchical h
      · obtain rfl := Except.ok.inj h; rfl

theorem readScheme_of_web {scheme : String} (h : scheme = "http" ∨ scheme = "https")
    (rest : List Char) :
    readScheme scheme rest = readHierarchical scheme (rest.dropWhile isSlash) := by
  rcases h with rfl | rfl <;> rfl

theorem endsAuthority_iff {c : Char} :
    endsAuthority true c = true ↔ isSlash c = true ∨ c = '?' ∨ c = '#' := by
  simp only [endsAuthority, isSlash, Bool.or_eq_true, Bool.and_eq_true, decide_eq_true_eq, true_and]
  tauto

theorem isSpecial_of_web {scheme : String} (h : scheme = "http" ∨ scheme = "https") :
    isSpecial scheme = true := by
  rcases h with rfl | rfl <;> decide

/-- How a web address is read. -/
theorem parse_web {s : String} {u : Url} (hparse : parse s = .ok u) (hweb : u.isWeb = true) :
    ∃ scheme rest, splitScheme? (clean s.toList) = some (scheme, rest) ∧
      (scheme = "http" ∨ scheme = "https") ∧
      readHierarchical scheme (rest.dropWhile isSlash) = .ok u := by
  unfold parse at hparse
  split at hparse
  · cases hparse
  · rename_i scheme rest hsplit
    have hscheme : scheme = "http" ∨ scheme = "https" := by
      simpa [isWeb, readScheme_scheme hparse] using hweb
    exact ⟨scheme, rest, hsplit, hscheme, readScheme_of_web hscheme rest ▸ hparse⟩

/-- The URL of a web address with an authority and a tail. -/
def readAfter (scheme : String) (authority tail : List Char) : Except ParseError Url :=
  (readAuthority scheme authority true).map fun authority =>
    ofParts scheme (some authority) (readPath true (splitTail tail).1) (splitTail tail).2.1
      (splitTail tail).2.2

theorem readHierarchical_of_special {scheme : String} (hspecial : isSpecial scheme = true)
    (cs : List Char) :
    readHierarchical scheme cs = readAfter scheme (cs.takeWhile (!endsAuthority true ·))
      (cs.dropWhile (!endsAuthority true ·)) := by
  unfold readHierarchical readAfter
  rw [hspecial]
  dsimp only
  rw [readAuthority_of_special hspecial, readAuthority_of_special hspecial]
  generalize Except.bind _ _ = authority
  cases authority <;> rfl

theorem readAfter_eq_ok_iff {scheme : String} {authority tail : List Char} {u : Url} :
    readAfter scheme authority tail = .ok u ↔
      ∃ a, readAuthority scheme authority true = .ok a ∧
        ofParts scheme (some a) (readPath true (splitTail tail).1) (splitTail tail).2.1
          (splitTail tail).2.2 = u := by
  unfold readAfter
  cases readAuthority scheme authority true with
  | error e => simp [Except.map]
  | ok a => simp [Except.map]

/-- Something has to stand where the authority is. -/
theorem readHierarchical_nil {scheme : String} (hspecial : isSpecial scheme = true) (u : Url) :
    readHierarchical scheme [] ≠ .ok u := by
  rw [readHierarchical_of_special hspecial, Ne, readAfter_eq_ok_iff]
  rintro ⟨a, hauthority, -⟩
  rw [readAuthority_of_special hspecial] at hauthority
  simp [splitUserinfo, splitPort, Host.parse_nil, Except.bind] at hauthority

/-! ## 4. Paths -/

/-- A path that is written as it is read: nothing in it is dropped, escaped or carried out. -/
structure IsPlain (path : List Char) : Prop where
  slash : path.head? = some '/'
  kept : ∀ c ∈ path, isMargin c = false ∧ isKept c = true ∧ c ≠ '?' ∧ c ≠ '#'
  inQuery : Percent.encode Percent.webQuery path = path
  inFragment : Percent.encode Percent.fragment path = path
  segments : ∀ segment ∈ splitPath true path.tail, isHere segment = false ∧ isAbove segment = false
  joined : '/' :: ['/'].intercalate ((splitPath true path.tail).map (Percent.encode Percent.path)) =
    path

theorem IsPlain.eq_cons {path : List Char} (h : IsPlain path) : ∃ rest, path = '/' :: rest := by
  cases path with
  | nil => cases h.slash
  | cons c rest => exact ⟨rest, by rw [Option.some.inj h.slash]⟩

theorem splitPath_ne_nil (special : Bool) (cs : List Char) : splitPath special cs ≠ [] := by
  cases cs with
  | nil => simp [splitPath]
  | cons c cs =>
    rw [splitPath]
    split
    · simp
    · split <;> simp

theorem splitPath_append_slash (special : Bool) (cs path : List Char) :
    splitPath special (cs ++ '/' :: path) = splitPath special cs ++ splitPath special path := by
  induction cs with
  | nil =>
    obtain ⟨segment, segments, h⟩ := List.exists_cons_of_ne_nil (splitPath_ne_nil special path)
    simp [splitPath, h]
  | cons c cs ih =>
    obtain ⟨segment, segments, h⟩ := List.exists_cons_of_ne_nil (splitPath_ne_nil special cs)
    rw [List.cons_append, splitPath, splitPath, ih, h]
    dsimp only [List.cons_append]
    split <;> rfl

/-- Segments without dots at the end are all left, whatever becomes of those before. -/
theorem resolveDots_append {plain : List (List Char)} (hne : plain ≠ [])
    (hplain : ∀ segment ∈ plain, isHere segment = false ∧ isAbove segment = false) :
    ∀ done segments : List (List Char),
      ∃ kept, resolveDots done (segments ++ plain) = kept ++ plain := by
  have hfinal : ∀ (plain : List (List Char)), plain ≠ [] →
      (∀ segment ∈ plain, isHere segment = false ∧ isAbove segment = false) →
      ∀ done, resolveDots done plain = done.reverse ++ plain := by
    intro plain
    induction plain with
    | nil => exact fun hne => absurd rfl hne
    | cons segment rest ih =>
      intro _ hplain done
      obtain ⟨hhere, habove⟩ := hplain segment List.mem_cons_self
      cases rest with
      | nil => simp [resolveDots, hhere, habove]
      | cons next rest =>
        rw [resolveDots]
        · rw [if_neg (by simp [habove]), if_neg (by simp [hhere]),
            ih (List.cons_ne_nil _ _) fun s hs => hplain s (List.mem_cons_of_mem _ hs)]
          simp
        · simp
  intro done segments
  induction segments generalizing done with
  | nil => exact ⟨done.reverse, hfinal plain hne hplain done⟩
  | cons segment rest ih =>
    rw [List.cons_append, resolveDots]
    · split
      · exact ih _
      · split
        · exact ih _
        · exact ih _
    · simp [hne]

theorem suffix_intercalate_append (segments : List (List Char)) {plain : List (List Char)}
    (hne : plain ≠ []) :
    '/' :: ['/'].intercalate plain <:+ '/' :: ['/'].intercalate (segments ++ plain) := by
  induction segments with
  | nil => exact List.suffix_rfl
  | cons segment rest ih =>
    have hrest : rest ++ plain ≠ [] := by simp [hne]
    rw [List.cons_append, List.intercalate_cons_of_ne_nil hrest, List.append_assoc,
      List.singleton_append]
    exact (ih.trans (List.suffix_append segment _)).trans (List.suffix_cons '/' _)

theorem readPath_cons {c : Char} (hc : isSlash c = true) (cs : List Char) :
    (readPath true (c :: cs)).toList = '/' :: ['/'].intercalate
      ((resolveDots [] (splitPath true cs)).map (Percent.encode Percent.path)) := by
  have hslash : (decide (c = '/') || (true && decide (c = '\\'))) = true := hc
  unfold readPath
  dsimp only
  rw [if_pos hslash, String.toList_ofList]

/-- **What is written after an authority ends its path as it is written.** -/
theorem suffix_readPath_append {path : List Char} (hpath : IsPlain path) {tail : List Char}
    (htail : ∀ c ∈ tail.head?, isSlash c = true) :
    path <:+ (readPath true (tail ++ path)).toList := by
  obtain ⟨rest, rfl⟩ := hpath.eq_cons
  have hplain : splitPath true rest ≠ [] := splitPath_ne_nil true rest
  obtain ⟨segments, hsegments⟩ : ∃ segments, (readPath true (tail ++ '/' :: rest)).toList =
      '/' :: ['/'].intercalate ((resolveDots [] (segments ++ splitPath true rest)).map
        (Percent.encode Percent.path)) := by
    cases tail with
    | nil => exact ⟨[], readPath_cons (by decide) rest⟩
    | cons c tail =>
      refine ⟨splitPath true tail, ?_⟩
      rw [List.cons_append, readPath_cons (htail c rfl), splitPath_append_slash]
  obtain ⟨kept, hkept⟩ := resolveDots_append hplain hpath.segments [] segments
  rw [hsegments, hkept, List.map_append]
  calc '/' :: rest
      = '/' :: ['/'].intercalate ((splitPath true rest).map (Percent.encode Percent.path)) :=
        hpath.joined.symm
    _ <:+ _ := suffix_intercalate_append _ (by simp [hplain])

/-! ## 5. Tails -/

theorem splitTail_append_fragment {tail : List Char} (h : '#' ∈ tail) (path : List Char) :
    ∃ fragment, (splitTail (tail ++ path)).2.2 = some (fragment ++ path) := by
  obtain ⟨fragment, hfragment⟩ := dropWhile_ne_append h
  refine ⟨fragment, ?_⟩
  rw [splitTail]
  dsimp only
  rw [hfragment]

theorem splitTail_append_query {tail path : List Char} (hfragment : '#' ∉ tail)
    (hpath : '#' ∉ path) (hquery : '?' ∈ tail) :
    ∃ query, (splitTail (tail ++ path)).2.1 = some (query ++ path) := by
  have hwhole : '#' ∉ tail ++ path := by simp [hfragment, hpath]
  obtain ⟨query, hquery⟩ := dropWhile_ne_append hquery
  refine ⟨query, ?_⟩
  rw [splitTail]
  dsimp only
  rw [takeWhile_ne_of_not_mem hwhole, hquery]

theorem splitTail_of_not_mem {tail : List Char} (hfragment : '#' ∉ tail) (hquery : '?' ∉ tail) :
    splitTail tail = (tail, none, none) := by
  rw [splitTail, takeWhile_ne_of_not_mem hfragment, takeWhile_ne_of_not_mem hquery,
    dropWhile_ne_of_not_mem hfragment, dropWhile_ne_of_not_mem hquery]

/-! ## 6. The whole text -/

/-- What marks a query or fragment stands in the address that follows the scheme. -/
theorem mem_address_iff {s scheme : String} {rest : List Char}
    (hsplit : splitScheme? (clean s.toList) = some (scheme, rest)) {d : Char}
    (hd : d = '?' ∨ d = '#') : d ∈ rest.dropWhile isSlash ↔ d ∈ s.toList := by
  obtain ⟨name, hclean, hname, -, -⟩ := splitScheme?_eq_some_iff.mp hsplit
  have hmargin : isMargin d = false := by rcases hd with rfl | rfl <;> decide
  have hslash : isSlash d = false := by rcases hd with rfl | rfl <;> decide
  have hscheme : isSchemeChar d = false ∧ d ≠ ':' := by rcases hd with rfl | rfl <;> decide
  have hrest : d ∈ s.toList ↔ d ∈ rest := by
    rw [← mem_clean_iff hmargin, hclean, List.mem_append, List.mem_cons]
    constructor
    · rintro (h | rfl | h)
      · simp [hname d h] at hscheme
      · exact absurd rfl hscheme.2
      · exact h
    · exact fun h => .inr (.inr h)
  rw [hrest]
  exact ⟨fun h => (List.dropWhile_suffix isSlash).subset h, fun h => mem_dropWhile_of_mem h hslash⟩

/-- What is left of an address when the slashes at its end are taken off: the address and its
loose end, up to those slashes. -/
theorem front_address {s scheme : String} {rest : List Char}
    (hsplit : splitScheme? (clean s.toList) = some (scheme, rest))
    (haddress : rest.dropWhile isSlash ≠ []) :
    ∃ extended slashes, extended ++ slashes = rest.dropWhile isSlash ++ looseEnd s.toList ∧
      (∀ c ∈ slashes, c = '/') ∧ ∀ path, splitScheme?
        (front (Text.dropTrailingSlashes s).toList ++ path) =
          some (scheme, rest.takeWhile isSlash ++ (extended ++ path)) ∧
        (rest.takeWhile isSlash ++ (extended ++ path)).dropWhile isSlash = extended ++ path := by
  obtain ⟨name, hclean, hname, halpha, hlower⟩ := splitScheme?_eq_some_iff.mp hsplit
  obtain ⟨d, address, hd⟩ := List.exists_cons_of_ne_nil haddress
  have hslash : isSlash d = false := by
    have hhead := List.head_dropWhile_not isSlash haddress
    simpa only [hd, List.head_cons] using hhead
  have hslashes : ∀ c ∈ s.toList.rtakeWhile (· = '/'), c = '/' :=
    fun c hc => by simpa using List.mem_rtakeWhile_imp hc
  have hnotIn : d ∉ s.toList.rtakeWhile (· = '/') := by
    intro hmem
    rw [hslashes d hmem] at hslash
    exact absurd hslash (by decide)
  have hfront : front (s.toList.rdropWhile (· = '/')) ++ s.toList.rtakeWhile (· = '/') =
      (name ++ ':' :: rest.takeWhile isSlash) ++ (d :: address ++ looseEnd s.toList) := by
    rw [front_append_slashes (by simp [hclean]), hclean, ← hd, List.append_assoc, List.append_assoc,
      List.cons_append, List.cons_append, ← List.append_assoc (rest.takeWhile isSlash),
      List.takeWhile_append_dropWhile]
  have hdropped : (Text.dropTrailingSlashes s).toList = s.toList.rdropWhile (· = '/') := by
    rw [Text.dropTrailingSlashes, String.toList_ofList]
    rfl
  rcases List.append_eq_append_iff.mp hfront with ⟨between, -, hbetween⟩ | ⟨extended, hcore, hends⟩
  · -- the slashes at the end do not reach into the address
    exact absurd (by simp [hbetween]) hnotIn
  obtain ⟨extended', rfl⟩ : ∃ extended', extended = d :: extended' := by
    cases extended with
    | nil => exact absurd (hends ▸ List.mem_cons_self : d ∈ [] ++ _) hnotIn
    | cons e extended' =>
      obtain ⟨rfl, -⟩ := List.cons.inj hends
      exact ⟨extended', rfl⟩
  refine ⟨d :: extended', _, by rw [hd, hends], hslashes, fun path => ⟨?_, ?_⟩⟩
  · refine splitScheme?_eq_some_iff.mpr ⟨name, ?_, hname, halpha, hlower⟩
    rw [hdropped, hcore, List.append_assoc, List.append_assoc, List.cons_append]
  · rw [List.dropWhile_append_of_pos fun c hc => List.mem_takeWhile_imp hc, List.cons_append,
      List.dropWhile_cons_of_neg (by simp [hslash])]

/-- The marks of a query or fragment are in the address, and not among what its end loses. -/
theorem mem_extended_iff {s : String} {extended slashes address : List Char}
    (hends : extended ++ slashes = address ++ looseEnd s.toList) (hslashes : ∀ c ∈ slashes, c = '/')
    {d : Char} (hd : d = '?' ∨ d = '#') : d ∈ extended ↔ d ∈ address := by
  have hmargin : 32 < d.toNat := by rcases hd with rfl | rfl <;> decide
  have hslash : d ≠ '/' := by rcases hd with rfl | rfl <;> decide
  have hloose : d ∉ looseEnd s.toList := by
    intro hmem
    have hblank := toNat_of_mem_looseEnd hmem
    omega
  have hnotIn : d ∉ slashes := fun hmem => hslash (hslashes d hmem)
  have hboth : d ∈ extended ++ slashes ↔ d ∈ address ++ looseEnd s.toList := by rw [hends]
  simpa [hnotIn, hloose] using hboth

theorem clean_append_path {s path : String} (hpath : IsPlain path.toList) :
    clean (s ++ path).toList = front s.toList ++ path.toList := by
  obtain ⟨rest, hrest⟩ := hpath.eq_cons
  have hplain : ∀ c ∈ path.toList, isMargin c = false ∧ isKept c = true :=
    fun c hc => ⟨(hpath.kept c hc).1, (hpath.kept c hc).2.1⟩
  rw [String.toList_append, clean_append (by simp [hrest]) hplain]

/-- How a web address is read, by itself and with a path after it: `rest` follows the scheme, and
`tail` is what the path is written after. -/
structure ReadsOn (s : String) (base : Url) (scheme : String) (rest tail : List Char) : Prop where
  web : scheme = "http" ∨ scheme = "https"
  split : splitScheme? (clean s.toList) = some (scheme, rest)
  alone : readHierarchical scheme (rest.dropWhile isSlash) = .ok base
  marks : ∀ d, d = '?' ∨ d = '#' → (d ∈ tail ↔ d ∈ s.toList)
  head : ∀ c ∈ tail.head?, endsAuthority true c = true
  followed : ∀ path : String, IsPlain path.toList →
    parse (Text.dropTrailingSlashes s ++ path) = readAfter scheme
      ((rest.dropWhile isSlash ++ looseEnd s.toList).takeWhile (!endsAuthority true ·))
      (tail ++ path.toList)

/-- **A path written after a web address** leaves the authority as it is, but for the loose end of
the address, and comes at the end of the tail. -/
theorem exists_readsOn {s : String} {base : Url} (hparse : parse s = .ok base)
    (hweb : base.isWeb = true) : ∃ scheme rest tail, ReadsOn s base scheme rest tail := by
  obtain ⟨scheme, rest, hsplit, hscheme, hread⟩ := parse_web hparse hweb
  have hspecial := isSpecial_of_web hscheme
  have haddress : rest.dropWhile isSlash ≠ [] := by
    intro hnil
    rw [hnil] at hread
    exact readHierarchical_nil hspecial base hread
  obtain ⟨extended, slashes, hends, hslashes, hfront⟩ := front_address hsplit haddress
  refine ⟨scheme, rest, extended.dropWhile (!endsAuthority true ·), hscheme, hsplit, hread,
    fun d hd => ?marks, fun c hc => ?head, fun path hpath => ?followed⟩
  case marks =>
    rw [← mem_address_iff hsplit hd, ← mem_extended_iff hends hslashes hd]
    refine ⟨fun h => (List.dropWhile_suffix _).subset h, fun h => mem_dropWhile_of_mem h ?_⟩
    rcases hd with rfl | rfl <;> decide
  case head =>
    have hhead := List.head?_dropWhile_not (!endsAuthority true ·) extended
    rw [Option.mem_def.mp hc] at hhead
    simpa using hhead
  case followed =>
    obtain ⟨path', hpath'⟩ := hpath.eq_cons
    have hslash : (!endsAuthority true '/') = false := by decide
    have hauthority : extended.takeWhile (!endsAuthority true ·) =
        (extended ++ slashes).takeWhile (!endsAuthority true ·) := by
      cases slashes with
      | nil => rw [List.append_nil]
      | cons c slashes =>
        obtain rfl := hslashes c List.mem_cons_self
        rw [takeWhile_append_of_head hslash]
    rw [parse, clean_append_path hpath, (hfront path.toList).1]
    dsimp only
    rw [readScheme_of_web hscheme, (hfront path.toList).2, readHierarchical_of_special hspecial,
      hpath', takeWhile_append_of_head hslash, dropWhile_append_of_head hslash, hauthority, hends]

/-! ## 7. Where the path leads -/

/-- A web address leads to a path at the server of another one. -/
structure LeadsTo (base : Url) (path : String) (u : Url) : Prop where
  web : u.isWeb = true
  host : u.host = base.host
  port : u.port = base.port
  ends : path.toList <:+ u.path.toList
  notInQuery : ∀ query ∈ u.query, ¬ path.toList <:+: query.toList
  notInFragment : ∀ fragment ∈ u.fragment, ¬ path.toList <:+: fragment.toList

/-- A path may be written after an address: it has no query or fragment to be taken in by, and its
host is not followed by what is dropped only at an end. -/
structure TakesPath (s : String) : Prop where
  noQuery : '?' ∉ s.toList
  noFragment : '#' ∉ s.toList
  ending : looseEnd s.toList = [] ∨ ∃ scheme rest,
    splitScheme? (clean s.toList) = some (scheme, rest) ∧ ∃ c ∈ rest.dropWhile isSlash, isSlash c

theorem infix_encode_append {reserved : Char → Bool} {path : List Char}
    (hpath : Percent.encode reserved path = path) (cs : List Char) :
    path <:+: (String.ofList (Percent.encode reserved (cs ++ path))).toList := by
  have happend : Percent.encode reserved (cs ++ path) =
      Percent.encode reserved cs ++ Percent.encode reserved path := List.flatMap_append
  rw [String.toList_ofList, happend, hpath]
  exact (List.suffix_append _ path).isInfix

theorem readAfter_leadsTo {scheme : String} (hscheme : scheme = "http" ∨ scheme = "https")
    {authority tail tail' : List Char} {base : Url}
    (hbase : readAfter scheme authority tail' = .ok base)
    (htail : ∀ c ∈ tail.head?, endsAuthority true c = true) (hquery : '?' ∉ tail)
    (hfragment : '#' ∉ tail) {path : String} (hpath : IsPlain path.toList) :
    ∃ u, readAfter scheme authority (tail ++ path.toList) = .ok u ∧ LeadsTo base path u := by
  obtain ⟨a, hauthority, rfl⟩ := readAfter_eq_ok_iff.mp hbase
  have hsplit : splitTail (tail ++ path.toList) = (tail ++ path.toList, none, none) := by
    apply splitTail_of_not_mem <;> intro hmem <;> rcases List.mem_append.mp hmem with h | h
    · exact hfragment h
    · exact (hpath.kept _ h).2.2.2 rfl
    · exact hquery h
    · exact (hpath.kept _ h).2.2.1 rfl
  have hhead : ∀ c ∈ tail.head?, isSlash c = true := by
    intro c hc
    have hmem : c ∈ tail := List.mem_of_mem_head? hc
    rcases endsAuthority_iff.mp (htail c hc) with h | rfl | rfl
    · exact h
    · exact absurd hmem hquery
    · exact absurd hmem hfragment
  refine ⟨_, readAfter_eq_ok_iff.mpr ⟨a, hauthority, rfl⟩, ?_⟩
  rw [hsplit]
  exact {
    web := by rcases hscheme with rfl | rfl <;> simp [isWeb, ofParts]
    host := rfl
    port := rfl
    ends := suffix_readPath_append hpath hhead
    notInQuery := fun _ h => nomatch h
    notInFragment := fun _ h => nomatch h }

theorem not_mem_of_leadsTo {scheme : String} (hspecial : isSpecial scheme = true)
    {authority tail : List Char} {path : String} (hpath : IsPlain path.toList) {base u : Url}
    (hu : readAfter scheme authority (tail ++ path.toList) = .ok u) (hleads : LeadsTo base path u) :
    '?' ∉ tail ∧ '#' ∉ tail := by
  obtain ⟨a, -, rfl⟩ := readAfter_eq_ok_iff.mp hu
  have hfragment : '#' ∉ tail := by
    intro hmem
    obtain ⟨fragment, hfragment⟩ := splitTail_append_fragment hmem path.toList
    refine hleads.notInFragment _ ?_ (infix_encode_append hpath.inFragment fragment)
    simp [ofParts, hfragment]
  refine ⟨fun hmem => ?_, hfragment⟩
  have hpathFragment : '#' ∉ path.toList := fun h => (hpath.kept _ h).2.2.2 rfl
  obtain ⟨query, hquery⟩ := splitTail_append_query hfragment hpathFragment hmem
  refine hleads.notInQuery _ ?_ (infix_encode_append hpath.inQuery query)
  simp [ofParts, hquery, hspecial]

/-- A loose end is not a part of the authority if something stands between the two. -/
theorem takeWhile_append_looseEnd {s : String} {address : List Char}
    (h : looseEnd s.toList = [] ∨ ∃ c ∈ address, isSlash c = true) :
    (address ++ looseEnd s.toList).takeWhile (!endsAuthority true ·) =
      address.takeWhile (!endsAuthority true ·) := by
  rcases h with h | ⟨c, hc, hslash⟩
  · rw [h, List.append_nil]
  · exact takeWhile_append_of_mem hc (by simp [endsAuthority_iff.mpr (.inl hslash)]) _

/-- Otherwise it is, and the authority is none. -/
theorem readAuthority_append_looseEnd {s scheme : String} (hspecial : isSpecial scheme = true)
    {address : List Char} (hloose : looseEnd s.toList ≠ [])
    (hplain : ∀ c ∈ address, endsAuthority true c = false) (a : Authority) :
    readAuthority scheme
      ((address ++ looseEnd s.toList).takeWhile (!endsAuthority true ·)) true ≠ .ok a := by
  have hall : (address ++ looseEnd s.toList).takeWhile (!endsAuthority true ·) =
      address ++ looseEnd s.toList := by
    rw [List.takeWhile_eq_self_iff]
    intro c hc
    rcases List.mem_append.mp hc with hc | hc
    · simp [hplain c hc]
    · exact of_blank (p := fun c => (!endsAuthority true c) = true) (by decide)
        (toNat_of_mem_looseEnd hc)
  obtain ⟨before, c, hconcat⟩ := (List.eq_nil_or_concat' (looseEnd s.toList)).resolve_left hloose
  have hblank : ∀ d ∈ before ++ [c], d.toNat ≤ 32 := hconcat ▸ fun d hd => toNat_of_mem_looseEnd hd
  rw [hall, hconcat, ← List.append_assoc]
  refine readAuthority_concat (hblank c (by simp)) hspecial (fun hmem => ?_) true a
  rcases List.mem_append.mp hmem with h | h
  · exact absurd (hplain _ h) (by decide)
  · exact absurd (hblank _ (List.mem_append_left _ h)) (by decide)

/-- **When a path written after a web address leads to itself.** -/
theorem parse_append_leadsTo_iff {s : String} {base : Url} (hparse : parse s = .ok base)
    (hweb : base.isWeb = true) {path : String} (hpath : IsPlain path.toList) :
    (∃ u, parse (Text.dropTrailingSlashes s ++ path) = .ok u ∧ LeadsTo base path u) ↔
      TakesPath s := by
  obtain ⟨scheme, rest, tail, hs⟩ := exists_readsOn hparse hweb
  have hspecial := isSpecial_of_web hs.web
  rw [hs.followed path hpath]
  constructor
  · rintro ⟨u, hu, hleads⟩
    obtain ⟨hquery, hfragment⟩ := not_mem_of_leadsTo hspecial hpath hu hleads
    refine ⟨fun h => hquery ((hs.marks _ (.inl rfl)).mpr h),
      fun h => hfragment ((hs.marks _ (.inr rfl)).mpr h), ?_⟩
    by_contra hending
    rw [not_or] at hending
    obtain ⟨hloose, hslash⟩ := hending
    obtain ⟨a, hauthority, -⟩ := readAfter_eq_ok_iff.mp hu
    -- nothing ends the authority before the loose end: no slash, and neither of the marks
    refine readAuthority_append_looseEnd hspecial hloose (fun c hc => ?_) a hauthority
    by_contra hends
    rcases endsAuthority_iff.mp (by simpa using hends) with h | h
    · exact hslash ⟨scheme, rest, hs.split, c, hc, h⟩
    · have htail : c ∈ tail := (hs.marks c h).mpr ((mem_address_iff hs.split h).mp hc)
      rcases h with rfl | rfl
      · exact hquery htail
      · exact hfragment htail
  · intro htakes
    have hending : looseEnd s.toList = [] ∨ ∃ c ∈ rest.dropWhile isSlash, isSlash c = true := by
      refine htakes.ending.imp_right ?_
      rintro ⟨scheme', rest', hsplit', hslash⟩
      obtain ⟨rfl, rfl⟩ := Prod.mk.inj (Option.some.inj (hs.split.symm.trans hsplit'))
      exact hslash
    have hbase := hs.alone
    rw [readHierarchical_of_special hspecial] at hbase
    rw [takeWhile_append_looseEnd hending]
    exact readAfter_leadsTo hs.web hbase hs.head
      (fun h => htakes.noQuery ((hs.marks _ (.inl rfl)).mp h))
      (fun h => htakes.noFragment ((hs.marks _ (.inr rfl)).mp h)) hpath

end Url

end QuotaBoard
