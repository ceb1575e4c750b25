import ChatHook.Http.Delivery
import Mathlib.Tactic.SplitIfs

/-!
# The scheme of a resolved URL

A text that is read relative to a base leads to a URL of the base's scheme, unless it starts with a
scheme of its own, which is then the scheme of the URL (`scheme_resolve`). So a `Location` takes a
chain away from its scheme only by naming another one (`scheme_location?`).
-/

namespace ChatHook

namespace Url

/-- Everything that can be read behind a scheme with an authority. -/
theorem exists_afterAuthority {scheme : String} {cs : List Char} {url : Url}
    (h : fromAuthority scheme cs = .ok url) :
    ∃ front host hostText rest, url = afterAuthority front rest ∧ front.scheme = scheme ∧
      front.host = some host ∧
      (if isSpecial scheme then specialHost hostText else plainHost hostText) = .ok host ∧
      (front.username, front.password) =
        credentials ((splitCredentials (isSpecial scheme) cs).1.getD []) ∧
      ∀ port ∈ front.port, defaultPort? scheme ≠ some port := by
  simp only [fromAuthority, bind, Except.bind, pure, Except.pure, throw, throwThe,
    MonadExceptOf.throw] at h
  -- No user behind an `@`, no host, a bad host and a bad port are faults.
  split_ifs at h with huser hempty hspecial
  · split at h
    · cases h
    · rename_i host hhost
      split at h
      · split at h <;> cases h
        exact ⟨_, host, _, _, rfl, rfl, rfl, by rw [if_pos hspecial, hhost], rfl, by simp⟩
      · cases h
        exact ⟨_, host, _, _, rfl, rfl, rfl, by rw [if_pos hspecial, hhost], rfl, by simp⟩
  · split at h
    · cases h
    · rename_i host hhost
      split at h
      · split at h <;> cases h
        exact ⟨_, host, _, _, rfl, rfl, rfl, by rw [if_neg hspecial, hhost], rfl, by simp⟩
      · cases h
        exact ⟨_, host, _, _, rfl, rfl, rfl, by rw [if_neg hspecial, hhost], rfl, by simp⟩

theorem scheme_fromAuthority {scheme : String} {cs : List Char} {url : Url}
    (h : fromAuthority scheme cs = .ok url) : url.scheme = scheme := by
  obtain ⟨front, host, hostText, rest, rfl, hscheme, -⟩ := exists_afterAuthority h
  exact hscheme

theorem scheme_fromFile {cs : List Char} {url : Url} (h : fromFile cs = .ok url) :
    url.scheme = "file" := by
  simp only [fromFile, bind, Except.bind, pure, Except.pure] at h
  split at h
  · split at h
    · split at h
      · cases h
        rfl
      · split at h
        · cases h
        · split at h <;> cases h <;> rfl
    · cases h
      rfl
  · cases h
    rfl

theorem scheme_fromPlainScheme {scheme : String} {cs : List Char} {url : Url}
    (h : fromPlainScheme scheme cs = .ok url) : url.scheme = scheme := by
  simp only [fromPlainScheme] at h
  split at h
  · exact scheme_fromAuthority h
  · cases h
    rfl

theorem scheme_fromScheme {scheme : String} {cs : List Char} {url : Url}
    (h : fromScheme scheme cs = .ok url) : url.scheme = scheme := by
  rw [fromScheme] at h
  split_ifs at h with hfile hspecial
  · exact hfile ▸ scheme_fromFile h
  · exact scheme_fromAuthority h
  · exact scheme_fromPlainScheme h

/-- What a base leads to is the base with another end, or it has an authority of its own. -/
theorem exists_of_fromBase {base url : Url} {cs : List Char} (h : fromBase base cs = .ok url) :
    (∃ path query fragment, url = { base with path, query, fragment }) ∨
      ∃ rest, fromAuthority base.scheme rest = .ok url := by
  simp only [fromBase] at h
  split at h
  · exact .inl ⟨_, _, _, (Except.ok.inj h).symm⟩
  · exact .inl ⟨_, _, _, (Except.ok.inj h).symm⟩
  · exact .inl ⟨_, _, _, (Except.ok.inj h).symm⟩
  · exact .inr ⟨_, h⟩
  · split_ifs at h
    · exact .inr ⟨_, h⟩
    · exact .inl ⟨_, _, _, (Except.ok.inj h).symm⟩
    · exact .inl ⟨_, _, _, (Except.ok.inj h).symm⟩

theorem scheme_fromBase {base url : Url} {cs : List Char} (h : fromBase base cs = .ok url) :
    url.scheme = base.scheme := by
  rcases exists_of_fromBase h with ⟨path, query, fragment, rfl⟩ | ⟨rest, h⟩
  · rfl
  · exact scheme_fromAuthority h

/-- A resolved URL has the scheme of its base or the scheme that the text starts with. -/
theorem scheme_resolve {base url : Url} {text : String} (h : resolve base text = .ok url) :
    url.scheme = base.scheme ∨ ∃ rest, scheme? (significant text) = some (url.scheme, rest) := by
  simp only [resolve] at h
  split at h
  · exact .inl (scheme_fromBase h)
  · rename_i scheme rest hscheme
    split_ifs at h
    · exact .inl (scheme_fromBase h)
    · exact .inr ⟨rest, by rw [hscheme, scheme_fromScheme h]⟩

end Url

namespace Http

/-- The scheme that a `Location` names, if it is a text that names one. -/
def namedScheme? (value : Bytes) : Option String :=
  (Utf8.decode? value).bind fun text ↦ (Url.scheme? (Url.significant text)).map Prod.fst

/-- The URL of a `Location` is the one that its text is resolved to, if it can be a target. -/
theorem exists_resolve_of_location? {current url : Url} {value : Bytes}
    (h : location? current value = some url) :
    ∃ text, Utf8.decode? value = some text ∧ Url.resolve current text = .ok url ∧
      isTarget url.text = true := by
  rw [location?] at h
  split at h
  · simp at h
  · rename_i text hdecode
    split at h
    · simp at h
    · rename_i url' hresolve
      obtain ⟨htarget, h⟩ := Option.ite_none_right_eq_some.1 h
      obtain rfl := Option.some.inj h
      exact ⟨text, hdecode, hresolve, htarget⟩

/-- The URL of a `Location` has the scheme of the current one or the scheme that it names. -/
theorem scheme_location? {current url : Url} {value : Bytes}
    (h : location? current value = some url) :
    url.scheme = current.scheme ∨ namedScheme? value = some url.scheme := by
  obtain ⟨text, hdecode, hresolve, -⟩ := exists_resolve_of_location? h
  rcases Url.scheme_resolve hresolve with hbase | ⟨rest, hscheme⟩
  · exact .inl hbase
  · exact .inr (by simp [namedScheme?, hdecode, hscheme])

end Http

end ChatHook
