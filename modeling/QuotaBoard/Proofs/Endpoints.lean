import QuotaBoard.Management.Client
import QuotaBoard.Proofs.Joins

/-!
# Where the requests to the management API go

The address of an endpoint is the text of the base address with a path after it, so it leads to the
endpoint exactly if the base address takes a path (`Client.endpoint_reaches_iff`).  An address with
a query or fragment, or with a blank after a bare host, passes the check of the client and does not
take one (`Client.endpoint_strays`).
-/

namespace QuotaBoard.Management

open Url (IsPlain LeadsTo TakesPath)

namespace Client

/-- The paths of the endpoints, below the one that they have in common. -/
def endpointPaths : List String := ["/api-call", "/auth-files", "/auth-files/download", "/api-keys"]

/-- The whole path of an endpoint. -/
def fullPath (path : String) : String := "/v0/management" ++ path

theorem isPlain_fullPath {path : String} (h : path ∈ endpointPaths) :
    IsPlain (fullPath path).toList := by
  have hkept : ((fullPath path).toList.all fun c =>
      !Url.isMargin c && Url.isKept c && c ≠ '?' && c ≠ '#') = true := by
    simp only [endpointPaths, List.mem_cons, List.not_mem_nil, or_false] at h
    rcases h with rfl | rfl | rfl | rfl <;> decide +kernel
  have hkept' : ∀ c ∈ (fullPath path).toList,
      Url.isMargin c = false ∧ Url.isKept c = true ∧ c ≠ '?' ∧ c ≠ '#' := by
    intro c hc
    simpa [and_assoc] using List.all_eq_true.mp hkept c hc
  simp only [endpointPaths, List.mem_cons, List.not_mem_nil, or_false] at h
  rcases h with rfl | rfl | rfl | rfl <;>
    exact ⟨by decide +kernel, hkept', by decide +kernel, by decide +kernel, by decide +kernel,
      by decide +kernel⟩

theorem open?_eq_ok_iff {baseUrl key : String} {c : Client} :
    open? baseUrl key = .ok c ↔
      c = ⟨baseUrl, key⟩ ∧ ∃ base, Url.parse baseUrl = .ok base ∧ base.isWeb = true := by
  unfold open?
  cases hparse : Url.parse baseUrl with
  | error e => simp
  | ok base =>
    dsimp only
    split
    · rename_i hweb
      constructor
      · intro h
        exact ⟨(Except.ok.inj h).symm, base, rfl, hweb⟩
      · rintro ⟨rfl, -⟩
        rfl
    · rename_i hweb
      constructor
      · exact fun h => nomatch h
      · rintro ⟨-, base', hbase, hweb'⟩
        obtain rfl := Except.ok.inj hbase
        exact absurd hweb' hweb

/-- **The addresses of the endpoints lead to the endpoints** at the server of the base address if
that has neither query nor fragment nor a blank after a bare host, and else none of them does. -/
theorem endpoint_reaches_iff {baseUrl key : String} {c : Client}
    (hopen : open? baseUrl key = .ok c) :
    ∃ base, Url.parse baseUrl = .ok base ∧ ∀ path ∈ endpointPaths,
      ((∃ url, Url.parse (c.endpoint path) = .ok url ∧ LeadsTo base (fullPath path) url) ↔
        TakesPath baseUrl) := by
  obtain ⟨rfl, base, hparse, hweb⟩ := open?_eq_ok_iff.mp hopen
  refine ⟨base, hparse, fun path hpath => ?_⟩
  have hendpoint : endpoint ⟨baseUrl, key⟩ path =
      Text.dropTrailingSlashes baseUrl ++ fullPath path := String.append_assoc ..
  rw [hendpoint]
  exact Url.parse_append_leadsTo_iff hparse hweb (isPlain_fullPath hpath)

theorem endpoint_reaches_iff_local :
    open? "http://localhost:8317/" "k" = .ok ⟨"http://localhost:8317/", "k"⟩ ∧
      ∃ base, Url.parse "http://localhost:8317/" = .ok base ∧ ∀ path ∈ endpointPaths,
        ∃ url, Url.parse (endpoint ⟨"http://localhost:8317/", "k"⟩ path) = .ok url ∧
          LeadsTo base (fullPath path) url := by
  have hparse : Url.parse "http://localhost:8317/" =
      .ok ⟨"http", "", "", some (.domain "localhost"), some 8317, "/", none, none⟩ := by
    decide +kernel
  have hopen : open? "http://localhost:8317/" "k" = .ok ⟨"http://localhost:8317/", "k"⟩ :=
    open?_eq_ok_iff.mpr ⟨rfl, _, hparse, by decide⟩
  have htakes : TakesPath "http://localhost:8317/" := ⟨by decide, by decide, .inl (by decide)⟩
  obtain ⟨base, hbase, hreaches⟩ := endpoint_reaches_iff hopen
  exact ⟨hopen, base, hbase, fun path hpath => (hreaches path hpath).mpr htakes⟩

/-- A query takes the endpoint in, and a blank at the end ends up in the port. -/
theorem endpoint_strays :
    (∃ c base url, open? "http://localhost:8317?q=1" "k" = .ok c ∧
      Url.parse "http://localhost:8317?q=1" = .ok base ∧
      Url.parse (c.endpoint "/auth-files") = .ok url ∧
      url.query = some "q=1/v0/management/auth-files" ∧
      ¬ LeadsTo base (fullPath "/auth-files") url) ∧
    (∃ c, open? "http://localhost:8317 " "k" = .ok c ∧
      Url.parse (c.endpoint "/auth-files") = .error .invalidPort) := by
  have hquery : Url.parse "http://localhost:8317?q=1" =
      .ok ⟨"http", "", "", some (.domain "localhost"), some 8317, "/", some "q=1", none⟩ := by
    decide +kernel
  have hblank : Url.parse "http://localhost:8317 " =
      .ok ⟨"http", "", "", some (.domain "localhost"), some 8317, "/", none, none⟩ := by
    decide +kernel
  have hstray : Url.parse (endpoint ⟨"http://localhost:8317?q=1", "k"⟩ "/auth-files") =
      .ok ⟨"http", "", "", some (.domain "localhost"), some 8317, "/",
        some "q=1/v0/management/auth-files", none⟩ := by
    decide +kernel
  refine ⟨⟨_, _, _, open?_eq_ok_iff.mpr ⟨rfl, _, hquery, by decide⟩, hquery, hstray, rfl,
    fun hleads => ?_⟩, _, open?_eq_ok_iff.mpr ⟨rfl, _, hblank, by decide⟩, by decide +kernel⟩
  exact hleads.notInQuery _ rfl (by decide +kernel)

end Client

end QuotaBoard.Management
