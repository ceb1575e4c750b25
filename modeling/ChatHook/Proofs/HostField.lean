import ChatHook.Proofs.Userinfo

/-!
# Hosts of requests

The `host` of a request is the host of its target: the text that stands there behind the credentials
and in front of the path, with the port only where it is not the one of plain connections
(`IsHostOf`). That it is always the authority text of the URL (`isHostOf_iff`) rests on two facts
about URLs of the plain web: a host is written without `@`, and a URL that was read never has the
port of its scheme (`omitsDefaultPort_parse`, `omitsDefaultPort_resolve`).

## Main results

* `omitsDefaultPort_parse`, `omitsDefaultPort_resolve`: what is read omits the default port.
* `isHostOf_iff`: the host of a URL.
-/

namespace ChatHook.Url

/-! ### Default ports -/

/-- A URL does not have the port that its scheme uses anyway. -/
def OmitsDefaultPort (url : Url) : Prop :=
  ∀ port ∈ url.port, defaultPort? url.scheme ≠ some port

theorem omitsDefaultPort_fromAuthority {scheme : String} {cs : List Char} {url : Url}
    (h : fromAuthority scheme cs = .ok url) : url.OmitsDefaultPort := by
  obtain ⟨front, host, hostText, rest, rfl, rfl, -, -, -, hport⟩ := exists_afterAuthority h
  exact hport

/-- A URL that is no file omits its default port. -/
theorem omitsDefaultPort_fromScheme {scheme : String} {cs : List Char} {url : Url}
    (h : fromScheme scheme cs = .ok url) (hfile : scheme ≠ "file") : url.OmitsDefaultPort := by
  rw [fromScheme, if_neg hfile] at h
  split_ifs at h
  · exact omitsDefaultPort_fromAuthority h
  · simp only [fromPlainScheme] at h
    split at h
    · exact omitsDefaultPort_fromAuthority h
    · rw [← Except.ok.inj h]
      simp [OmitsDefaultPort]

theorem omitsDefaultPort_parse {text : String} {url : Url} (h : parse text = .ok url)
    (hscheme : url.scheme = "http") : url.OmitsDefaultPort := by
  rw [parse] at h
  split at h
  · rename_i scheme rest _
    obtain rfl : scheme = "http" := (scheme_fromScheme h).symm.trans hscheme
    exact omitsDefaultPort_fromScheme h (by decide)
  · simp at h

theorem omitsDefaultPort_fromBase {base url : Url} (hbase : base.OmitsDefaultPort)
    {cs : List Char} (h : fromBase base cs = .ok url) : url.OmitsDefaultPort := by
  rcases exists_of_fromBase h with ⟨path, query, fragment, rfl⟩ | ⟨rest, h⟩
  · exact hbase
  · exact omitsDefaultPort_fromAuthority h

theorem omitsDefaultPort_resolve {base url : Url} (hbase : base.OmitsDefaultPort) {text : String}
    (h : resolve base text = .ok url) (hscheme : url.scheme = "http") : url.OmitsDefaultPort := by
  simp only [resolve] at h
  split at h
  · exact omitsDefaultPort_fromBase hbase h
  · rename_i scheme rest _
    split_ifs at h
    · exact omitsDefaultPort_fromBase hbase h
    · obtain rfl : scheme = "http" := (scheme_fromScheme h).symm.trans hscheme
      exact omitsDefaultPort_fromScheme h (by decide)

/-! ### Hosts -/

/-- A text is the host of a URL of the plain web. -/
structure IsHostOf (url : Url) (value : String) : Prop where
  /-- It is the name or address, with the port unless it is the one of plain connections. -/
  written : ∃ host port, url.host = some host ∧ url.effectivePort? = some port ∧
    value = host.text ++ if port = 80 then "" else ":" ++ toString port
  /-- It stands in the target, behind the credentials and in front of the path. -/
  inTarget : ∃ rest,
    url.withoutFragment.text = "http://" ++ url.credentialsText ++ value ++ "/" ++ rest
  /-- No credentials are in it. -/
  bare : '@' ∉ value.toList

theorem IsHostOf.unique {url : Url} {value value' : String} (h : url.IsHostOf value)
    (h' : url.IsHostOf value') : value = value' := by
  obtain ⟨host, port, hhost, hport, rfl⟩ := h.written
  obtain ⟨host', port', hhost', hport', rfl⟩ := h'.written
  obtain rfl := Option.some.inj (hhost.symm.trans hhost')
  obtain rfl := Option.some.inj (hport.symm.trans hport')
  rfl

theorem isHostOf_authorityText {url : Url} (hweb : url.IsWeb) (hport : url.OmitsDefaultPort) :
    url.IsHostOf url.authorityText := by
  refine ⟨?_, exists_text hweb.withoutFragment, fun hat ↦ ?_⟩
  · obtain ⟨host, hhost, -⟩ := hweb.host
    rw [OmitsDefaultPort, hweb.scheme] at hport
    cases hgiven : url.port with
    | none =>
      refine ⟨host, 80, hhost, by rw [effectivePort?, hgiven, hweb.scheme]; rfl, ?_⟩
      simp [authorityText, hhost, hgiven]
    | some port =>
      have hne : port ≠ 80 := fun h ↦ hport port hgiven (h ▸ rfl)
      refine ⟨host, port, hhost, by rw [effectivePort?, hgiven]; rfl, ?_⟩
      simp [authorityText, hhost, hgiven, hne]
  · exact ne_of_isHostChar ((bareAuthority_authorityText hweb).2 '@' hat) rfl rfl

/-- The host of a URL of the plain web is its authority text. -/
theorem isHostOf_iff {url : Url} (hweb : url.IsWeb) (hport : url.OmitsDefaultPort)
    {value : String} : url.IsHostOf value ↔ value = url.authorityText := by
  have hhost := isHostOf_authorityText hweb hport
  constructor
  · exact fun h ↦ h.unique hhost
  · rintro rfl
    exact hhost

end ChatHook.Url
