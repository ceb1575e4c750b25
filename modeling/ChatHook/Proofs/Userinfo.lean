import ChatHook.Proofs.HostText
import ChatHook.Proofs.Resolution

/-!
# Where a URL shows user names

A URL of the plain web has a host that is written without delimiters, and a path that starts with a
slash (`Url.IsWeb`). Both are kept when a text is resolved against it. So in its text nothing but
credentials can put an `@` in front of the first slash of the path, and the text of a URL without
credentials is never read as one with credentials.

## Main results

* `isWeb_parse`, `isWeb_resolve`: what is read is of this kind.
* `hasCredentials_parse_text`: the text of a URL without credentials is read without credentials.
-/

namespace ChatHook.Url

/-! ### URLs of the plain web -/

/-- A URL of the plain web, as far as its authority and the start of its path are concerned. -/
structure IsWeb (url : Url) : Prop where
  scheme : url.scheme = "http"
  host : ∃ host, url.host = some host ∧ host.IsPlain
  path : ∃ first rest, url.path = .segments (first :: rest)

theorem IsWeb.withoutCredentials {url : Url} (h : url.IsWeb) : url.withoutCredentials.IsWeb :=
  ⟨h.scheme, h.host, h.path⟩

theorem IsWeb.withoutFragment {url : Url} (h : url.IsWeb) : url.withoutFragment.IsWeb :=
  ⟨h.scheme, h.host, h.path⟩

/-- The last part of a path always leaves a segment. -/
theorem pushAll_ne_nil (rules : PathRules) (done : List String) {parts : List (List Char)}
    (h : parts ≠ []) : rules.pushAll done parts ≠ [] := by
  induction parts generalizing done with
  | nil => exact absurd rfl h
  | cons part parts ih =>
    cases parts with
    | nil =>
      simp only [PathRules.pushAll, PathRules.push]
      split_ifs <;> simp_all
    | cons next parts => exact ih _ (List.cons_ne_nil next parts)

/-- A path of the plain web has a segment. -/
theorem exists_segments_path (done : List String) (cs : List Char) :
    ∃ first rest, (PathRules.of "http").path done cs = .segments (first :: rest) := by
  have hdrives : (PathRules.of "http").drives = false := rfl
  have hne : ((PathRules.of "http").pushAll done
      (cs.splitOnP (PathRules.of "http").isSlash)).reverse ≠ [] := by
    rw [Ne, List.reverse_eq_nil_iff]
    exact pushAll_ne_nil _ done (List.splitOnP_ne_nil _ cs)
  obtain ⟨first, rest, hlist⟩ := List.exists_cons_of_ne_nil hne
  refine ⟨first, rest, ?_⟩
  rw [PathRules.path, hdrives, hlist]
  rfl

theorem isWeb_afterAuthority {url : Url} (hscheme : url.scheme = "http") {host : Host}
    (hhost : url.host = some host) (hplain : host.IsPlain) (cs : List Char) :
    (afterAuthority url cs).IsWeb := by
  refine ⟨hscheme, ⟨host, hhost, hplain⟩, ?_⟩
  simp only [afterAuthority, hscheme]
  split
  · exact exists_segments_path [] []
  · split_ifs <;> exact exists_segments_path [] _

theorem isWeb_fromAuthority {cs : List Char} {url : Url} (h : fromAuthority "http" cs = .ok url) :
    url.IsWeb := by
  obtain ⟨front, host, hostText, rest, rfl, hscheme, hhost, hread, -⟩ := exists_afterAuthority h
  exact isWeb_afterAuthority hscheme hhost (isPlain_of_specialHost hread) rest

theorem isWeb_fromScheme {cs : List Char} {url : Url} (h : fromScheme "http" cs = .ok url) :
    url.IsWeb :=
  isWeb_fromAuthority h

/-- A URL that is read and is of the plain web by its scheme. -/
theorem isWeb_parse {text : String} {url : Url} (h : parse text = .ok url)
    (hscheme : url.scheme = "http") : url.IsWeb := by
  rw [parse] at h
  split at h
  · rename_i scheme rest _
    obtain rfl : scheme = "http" := (scheme_fromScheme h).symm.trans hscheme
    exact isWeb_fromScheme h
  · simp at h

theorem isWeb_fromBase {base url : Url} (hbase : base.IsWeb) {cs : List Char}
    (h : fromBase base cs = .ok url) : url.IsWeb := by
  have hscheme := hbase.scheme
  have hpath : ∀ done cs, ∃ first rest,
      (PathRules.of base.scheme).path done cs = .segments (first :: rest) := by
    rw [hscheme]
    exact exists_segments_path
  simp only [fromBase] at h
  split at h
  · rw [← Except.ok.inj h]
    exact hbase.withoutFragment
  · rw [← Except.ok.inj h]
    exact ⟨hscheme, hbase.host, hbase.path⟩
  · rw [← Except.ok.inj h]
    exact ⟨hscheme, hbase.host, hbase.path⟩
  · rw [hscheme] at h
    exact isWeb_fromAuthority h
  · split_ifs at h
    · rw [hscheme] at h
      exact isWeb_fromAuthority h
    · rw [← Except.ok.inj h]
      exact ⟨hscheme, hbase.host, hpath _ _⟩
    · rw [← Except.ok.inj h]
      exact ⟨hscheme, hbase.host, hpath _ _⟩

/-- A URL that is resolved against one of the plain web and is of the plain web by its scheme. -/
theorem isWeb_resolve {base url : Url} (hbase : base.IsWeb) {text : String}
    (h : resolve base text = .ok url) (hscheme : url.scheme = "http") : url.IsWeb := by
  simp only [resolve] at h
  split at h
  · exact isWeb_fromBase hbase h
  · rename_i scheme rest _
    split_ifs at h
    · exact isWeb_fromBase hbase h
    · obtain rfl : scheme = "http" := (scheme_fromScheme h).symm.trans hscheme
      exact isWeb_fromScheme h

/-! ### Texts -/

/-- What stands between scheme and path where there are no credentials: an authority without `@`
and without anything that ends it. -/
def BareAuthority (authority : List Char) : Prop :=
  authority ≠ [] ∧ ∀ c ∈ authority, isHostChar c = true

theorem bareAuthority_authorityText {url : Url} (h : url.IsWeb) :
    BareAuthority url.authorityText.toList := by
  obtain ⟨host, hhost, hne, hplain⟩ := h.host
  refine ⟨?_, fun c hc ↦ ?_⟩
  · simp [authorityText, hhost, hne]
  · rw [authorityText, hhost, String.toList_append] at hc
    rcases List.mem_append.1 hc with hc | hc
    · exact hplain c hc
    · cases hport : url.port with
      | none => simp [hport] at hc
      | some port =>
        rw [hport, Option.elim_some, String.toList_append, Nat.toString_eq_ofList_toDigits] at hc
        rcases List.mem_append.1 hc with hc | hc
        · obtain rfl : c = ':' := by simpa using hc
          rfl
        · rw [String.toList_ofList] at hc
          exact isHostChar_of_mem_toDigits (by decide) hc

/-- The text of a URL of the plain web. -/
theorem exists_text {url : Url} (h : url.IsWeb) :
    ∃ rest, url.text = "http://" ++ url.credentialsText ++ url.authorityText ++ "/" ++ rest := by
  obtain ⟨host, hhost, -⟩ := h.host
  obtain ⟨first, segments, hpath⟩ := h.path
  have hlead : url.leadText = "//" ++ url.credentialsText ++ url.authorityText := by
    rw [leadText, hhost]
  have hpathText : url.path.text = "/" ++ (first ++ String.join (segments.map ("/" ++ ·))) := by
    simp [hpath, Path.text, String.append_assoc]
  have hfront (rest : String) : "http:" ++ ("//" ++ rest) = "http://" ++ rest := by
    rw [← String.append_assoc]
    rfl
  refine ⟨first ++ String.join (segments.map ("/" ++ ·)) ++ url.query.elim "" ("?" ++ ·) ++
    url.fragment.elim "" ("#" ++ ·), ?_⟩
  rw [text, hlead, hpathText]
  simp [h.scheme, String.append_assoc, hfront]

/-- The text of a URL of the plain web without credentials. -/
theorem exists_text_eq {url : Url} (h : url.IsWeb) (hcredentials : url.hasCredentials = false) :
    ∃ rest, url.text.toList = 'h' :: 't' :: 't' :: 'p' :: ':' :: '/' :: '/' ::
      (url.authorityText.toList ++ '/' :: rest) := by
  obtain ⟨rest, htext⟩ := exists_text h
  refine ⟨rest.toList, ?_⟩
  rw [htext, credentialsText, hcredentials]
  simp [String.toList_append, List.append_assoc]

/-! ### Reading texts back -/

/-- Cutting off an end of blanks leaves everything up to a character that is none. -/
theorem exists_reverse_dropWhile {p : Char → Bool} {c : Char} (hc : p c = false)
    (front rest : List Char) :
    ∃ rest', ((front ++ c :: rest).reverse.dropWhile p).reverse = front ++ c :: rest' := by
  refine ⟨(rest.reverse.dropWhile p).reverse, ?_⟩
  have hkeep : (c :: front.reverse).dropWhile p = c :: front.reverse :=
    List.dropWhile_cons_of_neg (by simp [hc])
  rw [List.reverse_append, List.reverse_cons, List.append_assoc, List.singleton_append,
    List.dropWhile_append]
  split_ifs with hempty
  · rw [hkeep, List.isEmpty_iff.1 hempty]
    simp
  · simp

/-- The characters that count of a text with a bare authority. -/
theorem exists_significant_eq {text : String} {authority rest : List Char}
    (hauthority : BareAuthority authority)
    (htext : text.toList =
      'h' :: 't' :: 't' :: 'p' :: ':' :: '/' :: '/' :: (authority ++ '/' :: rest)) :
    ∃ rest', significant text =
      'h' :: 't' :: 't' :: 'p' :: ':' :: '/' :: '/' :: (authority ++ '/' :: rest') := by
  have hstart : text.toList.dropWhile (·.toNat ≤ 0x20) = text.toList := by
    rw [htext]
    exact List.dropWhile_cons_of_neg (by decide)
  obtain ⟨rest', hend⟩ := exists_reverse_dropWhile (p := (·.toNat ≤ 0x20)) (c := '/') (by decide)
    ('h' :: 't' :: 't' :: 'p' :: ':' :: '/' :: '/' :: authority) rest
  have hkept : ∀ c ∈ authority, (c ≠ '\t' ∧ c ≠ '\n') ∧ c ≠ '\r' := by
    intro c hc
    have hchar := hauthority.2 c hc
    exact ⟨⟨ne_of_isHostChar hchar rfl, ne_of_isHostChar hchar rfl⟩, ne_of_isHostChar hchar rfl⟩
  refine ⟨rest'.filter (fun c ↦ c ≠ '\t' && c ≠ '\n' && c ≠ '\r'), ?_⟩
  simp only [List.cons_append] at hend
  rw [significant, hstart, htext, hend]
  simpa using hkept

/-- A bare authority has no credentials to split off. -/
theorem splitCredentials_of_bareAuthority {authority : List Char} (h : BareAuthority authority)
    (rest : List Char) : (splitCredentials true (authority ++ '/' :: rest)).1 = none := by
  have hgoesOn : ∀ c ∈ authority, isAuthorityChar true c = true := by
    intro c hc
    have hchar := h.2 c hc
    simp only [isAuthorityChar, Bool.and_eq_true, decide_eq_true_eq, Bool.true_and,
      Bool.not_eq_true', decide_eq_false_iff_not]
    exact ⟨⟨⟨ne_of_isHostChar hchar rfl, ne_of_isHostChar hchar rfl⟩, ne_of_isHostChar hchar rfl⟩,
      ne_of_isHostChar hchar rfl⟩
  have hat : '@' ∉ authority := fun hmem ↦ ne_of_isHostChar (h.2 '@' hmem) rfl rfl
  have hauthority : (authority ++ '/' :: rest).takeWhile (isAuthorityChar true) = authority := by
    rw [List.takeWhile_append_of_pos hgoesOn, List.takeWhile_cons_of_neg (by decide),
      List.append_nil]
  simp [splitCredentials, hauthority, hat]

/-- What is read behind a bare authority has no credentials. -/
theorem hasCredentials_fromAuthority {authority : List Char} (h : BareAuthority authority)
    {rest : List Char} {url : Url}
    (hread : fromAuthority "http" (authority ++ '/' :: rest) = .ok url) :
    url.hasCredentials = false := by
  obtain ⟨front, host, hostText, tail, rfl, -, -, -, hcredentials, -⟩ := exists_afterAuthority hread
  have hspecial : isSpecial "http" = true := rfl
  rw [hspecial, splitCredentials_of_bareAuthority h rest] at hcredentials
  obtain ⟨husername, hpassword⟩ := Prod.mk.inj hcredentials
  simp only [hasCredentials, afterAuthority, husername, hpassword]
  rfl

/-- The text of a URL without credentials is never read as one with credentials. -/
theorem hasCredentials_parse_text {url : Url} (h : url.IsWeb)
    (hcredentials : url.hasCredentials = false) {read : Url} (hread : parse url.text = .ok read) :
    read.hasCredentials = false := by
  have hauthority := bareAuthority_authorityText h
  obtain ⟨rest, htext⟩ := exists_text_eq h hcredentials
  obtain ⟨rest', hsignificant⟩ := exists_significant_eq hauthority htext
  have hscheme : scheme? (significant url.text) =
      some ("http", '/' :: '/' :: (url.authorityText.toList ++ '/' :: rest')) := by
    rw [hsignificant]
    rfl
  -- No slash of the authority is skipped together with the two in front of it.
  have hslashes : ('/' :: '/' :: (url.authorityText.toList ++ '/' :: rest')).dropWhile
      isSpecialSlash = url.authorityText.toList ++ '/' :: rest' := by
    obtain ⟨c, tail, hcons⟩ := List.exists_cons_of_ne_nil hauthority.1
    have hfirst : isSpecialSlash c = false := by
      have hchar := hauthority.2 c (by rw [hcons]; exact List.mem_cons_self)
      simp only [isSpecialSlash, Bool.or_eq_false_iff, decide_eq_false_iff_not]
      exact ⟨ne_of_isHostChar hchar rfl, ne_of_isHostChar hchar rfl⟩
    rw [List.dropWhile_cons_of_pos (by decide), List.dropWhile_cons_of_pos (by decide), hcons,
      List.cons_append, List.dropWhile_cons_of_neg (by simp [hfirst])]
  have hfrom : fromAuthority "http" (url.authorityText.toList ++ '/' :: rest') = .ok read := by
    rw [← hslashes, ← hread, parse, hscheme]
    rfl
  exact hasCredentials_fromAuthority hauthority hfrom

end ChatHook.Url
