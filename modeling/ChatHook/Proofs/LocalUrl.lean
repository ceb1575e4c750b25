import ChatHook.Endpoint
import ChatHook.Proofs.Chain
import ChatHook.Proofs.PlainName
import ChatHook.Proofs.Userinfo

/-!
# The URL of an endpoint

An endpoint listens on some port of the local machine. Whatever the port, its URL is read as the
local address and this port, which goes unmentioned where it is the one of the scheme: nothing in
the address ends the host early (`splitHost_append`), and the digits behind the colon are read as
the number that they write (`readPort_toDigits`). The URL has no credentials to take away and fits
into a request, so a message to an endpoint starts from it as it stands.

## Main results

* `fromAuthority_of_port`: an address with a port is read.
* `departure?_url_start`: where a message to an endpoint starts.
-/

namespace ChatHook

/-! ### Ports and hosts -/

namespace Url

/-- Digits that write a port are read as it. -/
theorem readPort_toDigits {port : Nat} (h : port < 65536) (rest : List Char) :
    readPort none (Nat.toDigits 10 port ++ rest) = readPort (some port) rest := by
  have hstep : ∀ value? d rest, d < 10 → Option.getD value? 0 * 10 + d < 65536 →
      readPort value? (d.digitChar :: rest) =
        readPort (some (Option.getD value? 0 * 10 + d)) rest := by
    intro value? d rest hd hvalue
    have hchar : d.digitChar.isDigit = true := by simp [Nat.isDigit_digitChar, hd]
    have hdigit : d.digitChar.toNat - '0'.toNat = d := Nat.toNat_digitChar_sub_48_of_lt_ten hd
    rw [readPort, if_pos hchar]
    simp only [hdigit]
    rw [if_neg (by omega)]
  -- The first digit is read from nothing as from a zero.
  have hzero : readPort none (Nat.toDigits 10 port ++ rest) =
      readPort (some 0) (Nat.toDigits 10 port ++ rest) := by
    obtain ⟨c, cs, hcs⟩ := List.exists_cons_of_ne_nil (Nat.toDigits_ne_nil (n := port) (b := 10))
    have hdigit : c.isDigit = true := by
      refine Nat.isDigit_of_mem_toDigits (b := 10) (n := port) (by decide) (by decide) ?_
      rw [hcs]
      exact List.mem_cons_self
    rw [hcs, List.cons_append, readPort, readPort, if_pos hdigit, if_pos hdigit]
    rfl
  rw [hzero]
  exact read_toDigits (fun value ↦ readPort (some value))
    (fun m d rest hd hm ↦ hstep (some m) d rest hd hm) h rest

/-- A plain host is a name or an address of four numbers: nothing in it ends a host. -/
def IsPlainHost (host : List Char) : Prop :=
  host ≠ [] ∧ ∀ c ∈ host, isHostChar c = true ∧ c ≠ ':' ∧ c ≠ '['

theorem isAuthorityChar_of_isHostChar {c : Char} (h : isHostChar c = true) :
    isAuthorityChar true c = true := by
  simp [isAuthorityChar, ne_of_isHostChar h (d := '/') rfl, ne_of_isHostChar h (d := '?') rfl,
    ne_of_isHostChar h (d := '#') rfl, ne_of_isHostChar h (d := '\\') rfl]

/-- A plain host goes on up to a colon. -/
theorem splitHost_append {host : List Char}
    (h : ∀ c ∈ host, isHostChar c = true ∧ c ≠ ':' ∧ c ≠ '[') (rest : List Char) :
    splitHost true false (host ++ ':' :: rest) = (host, ':' :: rest) := by
  induction host with
  | nil => rfl
  | cons c host ih =>
    obtain ⟨⟨hc, hcolon, hopen⟩, hhost⟩ := List.forall_mem_cons.1 h
    rw [List.cons_append, splitHost, isAuthorityChar_of_isHostChar hc]
    simp [hcolon, hopen, ih hhost]

/-- A plain host with a port is a bare authority. -/
theorem bareAuthority_of_port {host : List Char} (h : IsPlainHost host) (port : Nat) :
    BareAuthority (host ++ ':' :: Nat.toDigits 10 port) := by
  refine ⟨by simp, fun c hc ↦ ?_⟩
  rcases List.mem_append.1 hc with hc | hc
  · exact (h.2 c hc).1
  · rcases List.mem_cons.1 hc with rfl | hc
    · rfl
    · exact isHostChar_of_mem_toDigits (by decide) hc

/-- Nothing is split off where no credentials are found. -/
theorem splitCredentials_of_fst_eq_none {special : Bool} {cs : List Char}
    (h : (splitCredentials special cs).1 = none) : splitCredentials special cs = (none, cs) := by
  simp only [splitCredentials] at h ⊢
  split_ifs at h ⊢
  · rfl

/-- An address with a port is read. -/
theorem fromAuthority_of_port {host : List Char} (hplain : IsPlainHost host) {address : Host}
    (haddress : specialHost host = .ok address) {port : Nat} (hport : port < 65536)
    (rest : List Char) :
    fromAuthority "http" (host ++ ':' :: (Nat.toDigits 10 port ++ '/' :: rest)) =
      .ok (afterAuthority
        { scheme := "http", username := "", password := none, host := some address
          port := if port = 80 then none else some port, path := .segments [], query := none
          fragment := none } ('/' :: rest)) := by
  have hcredentials :
      splitCredentials true (host ++ ':' :: (Nat.toDigits 10 port ++ '/' :: rest)) =
        (none, host ++ ':' :: (Nat.toDigits 10 port ++ '/' :: rest)) := by
    have hnone := splitCredentials_of_bareAuthority (bareAuthority_of_port hplain port) rest
    rw [List.append_assoc, List.cons_append] at hnone
    exact splitCredentials_of_fst_eq_none hnone
  have hread : readPort none (Nat.toDigits 10 port ++ '/' :: rest) =
      .ok (some port, '/' :: rest) := readPort_toDigits hport _
  have hspecial : isSpecial "http" = true := rfl
  have hfilter : (some port).filter (fun p ↦ !decide (defaultPort? "http" = some p)) =
      if port = 80 then none else some port := by
    have hdefault : defaultPort? "http" = some 80 := rfl
    by_cases h80 : port = 80
    · simp [hdefault, h80]
    · simp [hdefault, h80, Ne.symm h80]
  simp only [fromAuthority, hspecial, hcredentials, splitHost_append hplain.2, haddress, hread]
  simp [bind, Except.bind, pure, Except.pure, hplain.1, hfilter, credentials, percentEncode]

/-- What stands behind a slash and has neither a query nor a fragment is the path. -/
theorem afterAuthority_slash (url : Url) {rest : List Char}
    (h : ∀ c ∈ rest, isPathChar c = true) :
    afterAuthority url ('/' :: rest) =
      { url with
        path := (PathRules.of url.scheme).path [] rest, query := none, fragment := none } := by
  have hall : ∀ c ∈ '/' :: rest, isPathChar c = true := List.forall_mem_cons.2 ⟨rfl, h⟩
  have htext : ('/' :: rest).takeWhile isPathChar = '/' :: rest := List.takeWhile_eq_self_iff.2 hall
  have hbehind : ('/' :: rest).dropWhile isPathChar = [] := List.dropWhile_eq_nil_iff.2 hall
  have hslash : (PathRules.of url.scheme).isSlash '/' = true := rfl
  simp only [afterAuthority, htext, hbehind, queryAndFragment, hslash, if_true]

/-- In a text without blanks and controls every character counts. -/
theorem significant_of_visible {text : String} (h : ∀ c ∈ text.toList, 0x20 < c.toNat) :
    significant text = text.toList := by
  have hkept : ∀ cs : List Char, (∀ c ∈ cs, 0x20 < c.toNat) →
      cs.dropWhile (·.toNat ≤ 0x20) = cs := by
    intro cs hcs
    cases cs with
    | nil => rfl
    | cons c cs =>
      have hc := hcs c List.mem_cons_self
      exact List.dropWhile_cons_of_neg (by simpa using hc)
  have hbreaks : ∀ c ∈ text.toList, (c ≠ '\t' && c ≠ '\n' && c ≠ '\r') = true := by
    intro c hc
    have hne : ∀ d : Char, d.toNat ≤ 0x20 → c ≠ d := by
      rintro d hd rfl
      exact absurd (h c hc) (Nat.not_lt.2 hd)
    simp [hne '\t' (by decide), hne '\n' (by decide), hne '\r' (by decide)]
  simp only [significant]
  rw [hkept _ h, hkept _ fun c hc ↦ h c (List.mem_reverse.1 hc), List.reverse_reverse]
  exact List.filter_eq_self.2 hbreaks

end Url

/-! ### Targets -/

namespace Http

/-- Plain characters leave what an authority holds so far as it is. -/
theorem foldlM_step?_of_plain {cs : List Char} (h : ∀ c ∈ cs, isPlainChar c = true)
    {s : AuthorityScan} (hs : s.endsInAt = false) : cs.foldlM AuthorityScan.step? s = some s := by
  induction cs with
  | nil => rfl
  | cons c cs ih =>
    obtain ⟨hc, hcs⟩ := List.forall_mem_cons.1 h
    have hne : ∀ d ∈ [':', '[', ']', '@', '%'], c ≠ d := by
      have hothers : ∀ d ∈ [':', '[', ']', '@', '%'], isPlainChar d = false :=
        List.all_iff_forall_prop.1 (by decide)
      exact fun d hd ↦ ne_of_isPlainChar hc (hothers d hd)
    simp only [List.forall_mem_cons] at hne
    have htarget : isTargetChar c = true := by
      simp only [isPlainChar, Bool.or_eq_true, decide_eq_true_eq] at hc
      rcases hc with (hc | hc) | rfl
      · have halpha : c.isAlpha = (c.isUpper || c.isLower) := rfl
        simp [isTargetChar, Char.isAlphanum, halpha, hc]
      · simp [isTargetChar, Char.isAlphanum, hc]
      · decide
    have hstep : s.step? c = some s := by
      simp [AuthorityScan.step?, hne, htarget, ← hs]
    rw [List.foldlM_cons, hstep]
    exact ih hcs

/-- A web address is a target if its authority and its path are. -/
theorem isTarget_of_parts {text : String} {authority path : List Char}
    (hlength : text.length ≤ maxTargetLength)
    (htext : text.toList = "http://".toList ++ (authority ++ '/' :: path))
    (hbare : Url.BareAuthority authority) (hauthority : isAuthority authority = true)
    (hpath : isPathAndQuery ('/' :: path) = true) : isTarget text = true := by
  have hgoesOn : ∀ c ∈ authority, (c ≠ '/' && c ≠ '?' && c ≠ '#') = true := by
    intro c hc
    have hchar := hbare.2 c hc
    simp [ne_of_isHostChar hchar (d := '/') rfl, ne_of_isHostChar hchar (d := '?') rfl,
      ne_of_isHostChar hchar (d := '#') rfl]
  have htake : (authority ++ '/' :: path).takeWhile (fun c ↦ c ≠ '/' && c ≠ '?' && c ≠ '#') =
      authority := by
    rw [List.takeWhile_append_of_pos hgoesOn, List.takeWhile_cons_of_neg (by decide),
      List.append_nil]
  have hdrop : (authority ++ '/' :: path).dropWhile (fun c ↦ c ≠ '/' && c ≠ '?' && c ≠ '#') =
      '/' :: path := by
    rw [List.dropWhile_append_of_pos hgoesOn, List.dropWhile_cons_of_neg (by decide)]
  have hshort : ¬maxTargetLength < text.toList.length := Nat.not_lt.2 hlength
  have hbehind : behindScheme text.toList = .ok (some (authority ++ '/' :: path)) := by
    rw [htext]
    rfl
  simp only [isTarget, if_neg hshort, hbehind, htake, hdrop, hauthority, hpath]
  simp [hbare.1]

end Http

/-! ### Endpoints -/

/-- The endpoint that is started on a port of the local machine. -/
def Endpoint.start (port : UInt16) (status : String) : Endpoint :=
  ⟨"127.0.0.1:" ++ toString port.toNat, status⟩

/-- What the URL of an endpoint on a port of the local machine is read as. -/
def localUrl (port : Nat) : Url where
  scheme := "http"
  username := ""
  password := none
  host := some (.ipv4 0x7F000001)
  port := if port = 80 then none else some port
  path := .segments ["api", "webhooks", "1", "token"]
  query := none
  fragment := none

theorem isPlainHost_local : Url.IsPlainHost "127.0.0.1".toList :=
  ⟨by decide, List.all_iff_forall_prop.1 (by decide)⟩

theorem specialHost_local : Url.specialHost "127.0.0.1".toList = .ok (.ipv4 0x7F000001) := by
  rw [Url.specialHost_of_plain (by decide) (List.all_eq_true.1 (by decide))]
  decide +kernel

variable (port : UInt16) (status : String)

theorem toList_url_start :
    (Endpoint.start port status).url.toList =
      "http://127.0.0.1:".toList ++ (Nat.toDigits 10 port.toNat ++ Endpoint.path.toList) := by
  have hstart : "http://127.0.0.1:" = "http://" ++ "127.0.0.1:" := by decide
  simp only [Endpoint.url, Endpoint.start, String.toList_append, toList_toString, hstart,
    List.append_assoc]

/-- Every character of the URL of an endpoint counts. -/
theorem significant_url_start :
    Url.significant (Endpoint.start port status).url = (Endpoint.start port status).url.toList := by
  refine Url.significant_of_visible ?_
  rw [toList_url_start, List.forall_mem_append, List.forall_mem_append]
  refine ⟨List.all_iff_forall_prop.1 (by decide), fun c hc ↦ ?_,
    List.all_iff_forall_prop.1 (by decide)⟩
  have hchar := isHostChar_of_mem_toDigits (by decide) hc
  simp only [isHostChar, Bool.and_eq_true, decide_eq_true_eq] at hchar
  exact hchar.1

/-- The URL of an endpoint is read. -/
theorem parse_url_start :
    Url.parse (Endpoint.start port status).url = .ok (localUrl port.toNat) := by
  have hread := Url.fromAuthority_of_port isPlainHost_local specialHost_local port.toNat_lt
    "api/webhooks/1/token".toList
  have hscheme : Url.scheme? (Endpoint.start port status).url.toList = some ("http",
      '/' :: '/' :: ("127.0.0.1".toList ++ ':' ::
        (Nat.toDigits 10 port.toNat ++ '/' :: "api/webhooks/1/token".toList))) := by
    have hstart : "http://127.0.0.1:".toList =
        'h' :: 't' :: 't' :: 'p' :: ':' :: '/' :: '/' :: ("127.0.0.1".toList ++ [':']) := by decide
    have hpath : Endpoint.path.toList = '/' :: "api/webhooks/1/token".toList := by decide
    rw [toList_url_start, hstart, hpath]
    simp only [List.cons_append, List.append_assoc, List.nil_append]
    rfl
  have hslashes : ∀ rest, ('/' :: '/' :: ("127.0.0.1".toList ++ ':' :: rest)).dropWhile
      Url.isSpecialSlash = "127.0.0.1".toList ++ ':' :: rest := fun _ ↦ rfl
  have hpath : (Url.PathRules.of "http").path [] "api/webhooks/1/token".toList =
      .segments ["api", "webhooks", "1", "token"] := by
    decide
  rw [Url.parse, significant_url_start, hscheme]
  simp only [Url.fromScheme]
  rw [if_neg (by decide), if_pos (by decide), hslashes, hread,
    Url.afterAuthority_slash _ (List.all_eq_true.1 (by decide))]
  simp only [hpath]
  rfl

theorem authorityText_localUrl (port : Nat) :
    (localUrl port).authorityText =
      "127.0.0.1" ++ (if port = 80 then "" else ":" ++ toString port) := by
  have haddress : (Url.Host.ipv4 0x7F000001).text = "127.0.0.1" := by decide
  rw [Url.authorityText, localUrl]
  simp only [Option.elim_some, haddress]
  split_ifs <;> rfl

theorem pathText_localUrl (port : Nat) : (localUrl port).path.text = Endpoint.path := by
  change (Url.Path.segments ["api", "webhooks", "1", "token"]).text = Endpoint.path
  decide

theorem text_localUrl (port : Nat) :
    (localUrl port).text = "http://" ++ (localUrl port).authorityText ++ Endpoint.path := by
  have hstart : "http://" = "http" ++ ":" ++ "//" := by decide
  have hlead : (localUrl port).leadText = "//" ++ "" ++ (localUrl port).authorityText := rfl
  rw [Url.text, hlead, pathText_localUrl, hstart]
  simp only [localUrl, Option.elim_none, String.append_empty, String.append_assoc]

/-- Nothing is taken away from the URL of an endpoint. -/
theorem takeCredentials_localUrl (port : Nat) :
    Http.takeCredentials (localUrl port) = (localUrl port, none) := rfl

theorem isWeb_localUrl (port : Nat) : (localUrl port).IsWeb :=
  ⟨rfl, ⟨_, rfl, Url.isPlain_ipv4 _⟩, ⟨_, _, rfl⟩⟩

theorem isAuthority_localUrl (port : Nat) :
    Http.isAuthority (localUrl port).authorityText.toList = true := by
  have hhost : ∀ s : Http.AuthorityScan, s.endsInAt = false →
      "127.0.0.1".toList.foldlM Http.AuthorityScan.step? s = some s :=
    fun s hs ↦ Http.foldlM_step?_of_plain (List.all_eq_true.1 (by decide)) hs
  have hport : ∀ s : Http.AuthorityScan, s.endsInAt = false →
      (toString port).toList.foldlM Http.AuthorityScan.step? s = some s :=
    fun s hs ↦ Http.foldlM_step?_of_plain
      (fun c hc ↦ by simp [isPlainChar, isDigit_of_mem_toString hc]) hs
  rw [authorityText_localUrl, Http.isAuthority, String.toList_append, List.foldlM_append,
    hhost _ rfl]
  split_ifs
  · rfl
  · have hchars : (":" ++ toString port).toList = ':' :: (toString port).toList := by
      rw [String.toList_append]
      rfl
    have hcolon : Http.AuthorityScan.step? ⟨0, false, false, false, false⟩ ':' =
        some ⟨1, false, false, false, false⟩ := rfl
    have hrest := hport ⟨1, false, false, false, false⟩ rfl
    simp only [hchars, List.foldlM_cons, Option.bind_eq_bind, Option.bind_some, hcolon, hrest]
    rfl

theorem length_text_localUrl {port : Nat} (h : port < 65536) :
    (localUrl port).text.length ≤ 43 := by
  have hdigits : (toString port).length ≤ 5 := by
    rw [← String.length_toList, toList_toString]
    exact (Nat.length_toDigits_le_iff (by decide) (by decide)).2 (by omega)
  have hauthority : (localUrl port).authorityText.length ≤ 15 := by
    have hhost : "127.0.0.1".length = 9 := by decide
    have hcolon : ":".length = 1 := by decide
    rw [authorityText_localUrl, String.length_append, hhost]
    split_ifs
    · simp
    · rw [String.length_append, hcolon]
      omega
  have hscheme : "http://".length = 7 := by decide
  have hpath : Endpoint.path.length = 21 := by decide
  rw [text_localUrl, String.length_append, String.length_append, hscheme, hpath]
  omega

/-- The URL of an endpoint fits into a request. -/
theorem isTarget_localUrl {port : Nat} (h : port < 65536) :
    Http.isTarget (localUrl port).text = true := by
  have hbare := Url.bareAuthority_authorityText (isWeb_localUrl port)
  have hlength : (localUrl port).text.length ≤ Http.maxTargetLength :=
    (length_text_localUrl h).trans (by decide)
  have hpath : Endpoint.path.toList = '/' :: "api/webhooks/1/token".toList := by decide
  refine Http.isTarget_of_parts hlength ?_ hbare (isAuthority_localUrl port)
    (by decide : Http.isPathAndQuery ('/' :: "api/webhooks/1/token".toList) = true)
  rw [text_localUrl, String.toList_append, String.toList_append, hpath, List.append_assoc]

/-- A message to an endpoint starts from the URL of the endpoint. -/
theorem departure?_url_start :
    Http.departure? (Endpoint.start port status).url = some (localUrl port.toNat, none) := by
  rw [Http.departure?, parse_url_start]
  simp only [takeCredentials_localUrl, isTarget_localUrl port.toNat_lt]
  rfl

end ChatHook
