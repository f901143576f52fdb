import HostDiscovery.Proofs.Transfer.Reporting

/-! Downloads whose URL is looked at before anything is asked for. What is not refused is a URL of
the web with a host, and the download is as without the look. What is refused leaves the files
alone, and is reported unless the refusal is about a value or about a text that cannot be
encoded. -/
namespace HostDiscovery

namespace Url

variable {s : Text} {text : String} {url : Url} {f : Failure}

def IsRefusal (f : Failure) : Prop :=
  f.kind.isRequest = true ∨ f.kind = .value ∨ f.kind = .unencodable

lemma IsRefusal.isSystem_eq (h : IsRefusal f) : f.kind.isSystem = f.kind.isRequest := by
  obtain hrequest | hvalue | hunencodable := h
  · have hsystem : f.kind.isSystem = true := by simp [FailureKind.isSystem, hrequest]
    rw [hsystem, hrequest]
  · rw [hvalue]
    rfl
  · rw [hunencodable]
    rfl

lemma kind_of_authorityRefusal? (h : authorityRefusal? s = some f) : f.kind = .value := by
  unfold authorityRefusal? at h
  split_ifs at h
  · rw [← Option.some.inj h]
  · rw [← Option.some.inj h]

lemma kind_of_latinRefusal? (h : latinRefusal? s = some f) : f.kind = .unencodable := by
  unfold latinRefusal? at h
  dsimp only at h
  split at h
  · cases h
  · rw [← Option.some.inj h]
  · rw [← Option.some.inj h]

lemma kind_of_userRefusal? (h : userRefusal? s = some f) : f.kind = .unencodable := by
  unfold userRefusal? at h
  split at h
  · obtain huser | ⟨-, hpassword⟩ := Option.or_eq_some_iff.mp h
    · exact kind_of_latinRefusal? huser
    · exact kind_of_latinRefusal? hpassword
  · cases h

lemma isRefusal_strangeRefusal (s : Text) : IsRefusal (strangeRefusal s) := by
  unfold strangeRefusal
  dsimp only
  cases hauthority : authorityRefusal? (looseAuthority s) with
  | some f =>
    have hkind : f.kind = .value := kind_of_authorityRefusal? hauthority
    exact .inr (.inl hkind)
  | none =>
    cases huser : userRefusal? (looseAuthority s) with
    | some f =>
      have hkind : f.kind = .unencodable := kind_of_userRefusal? huser
      exact .inr (.inr hkind)
    | none => exact .inl rfl

lemma isRefusal_of_requestRefusal? (h : requestRefusal? s url = some f) : IsRefusal f := by
  unfold requestRefusal? at h
  split at h
  · rw [← Option.some.inj h]
    exact .inl rfl
  · rw [← Option.some.inj h]
    exact .inl rfl
  · split at h
    · rw [← Option.some.inj h]
      exact .inl rfl
    · split_ifs at h
      · exact .inr (.inr (kind_of_userRefusal? h))
      · rw [← Option.some.inj h]
        exact isRefusal_strangeRefusal _

theorem isRefusal_of_refusal? (h : refusal? text = some f) : IsRefusal f := by
  unfold refusal? at h
  dsimp only at h
  split_ifs at h
  · rw [← Option.some.inj h]
    exact isRefusal_strangeRefusal _
  · split at h
    · rw [← Option.some.inj h]
      exact .inl rfl
    · exact isRefusal_of_requestRefusal? h

/-- A URL of the web that may be asked for. -/
structure Requestable (url : Url) : Prop where
  scheme : ∃ scheme, url.scheme = some scheme ∧ isWeb url.scheme = true
  host : ∃ host name, url.host = some host ∧ host ≠ [] ∧ requestHost? host = some name
  port : ∀ port, url.port = some port → port ≤ greatestPort
  user : userRefusal? (url.user.getD [] ++ ['@']) = none

lemma port_le_of_readAuthority {whole authority : Text} {scheme : Option Text}
    (h : readAuthority whole scheme authority = .ok url) {port : Nat}
    (hport : url.port = some port) : port ≤ greatestPort := by
  unfold readAuthority at h
  dsimp only [bind, Except.bind, pure, Except.pure, throw, throwThe, MonadExceptOf.throw] at h
  split at h
  · split at h
    · cases h
    · split_ifs at h with hlarge
      split at h
      · cases h
      · obtain rfl := Except.ok.inj h
        obtain rfl : _ = some port := hport
        simpa using hlarge
  · cases h

lemma port_le_of_parse (h : parse s = .ok url) {port : Nat} (hport : url.port = some port) :
    port ≤ greatestPort := by
  unfold parse at h
  dsimp only [bind, Except.bind, pure, Except.pure] at h
  generalize (if s.isEmpty then s else withSlashes s) = whole at h
  split at h
  · obtain rfl := Except.ok.inj h
    cases hport
  next authority _ =>
    cases hread : readAuthority whole ((cutScheme whole).1.map Text.lower) authority with
    | error f =>
      rw [hread] at h
      cases h
    | ok start =>
      rw [hread] at h
      obtain rfl := Except.ok.inj h
      exact port_le_of_readAuthority hread hport

lemma requestRefusal?_eq_none (h : requestRefusal? s url = none) :
    (∃ scheme, url.scheme = some scheme ∧ isWeb url.scheme = true) ∧
      (∃ host name, url.host = some host ∧ host ≠ [] ∧ requestHost? host = some name) ∧
      userRefusal? (url.user.getD [] ++ ['@']) = none := by
  unfold requestRefusal? at h
  split at h
  · cases h
  · cases h
  next host hhost hscheme =>
    obtain ⟨hhost, hfilled⟩ := Option.filter_eq_some_iff.mp hhost
    obtain ⟨scheme, hscheme⟩ := Option.ne_none_iff_exists'.mp hscheme
    cases hname : requestHost? host with
    | none =>
      rw [hname] at h
      cases h
    | some name =>
      rw [hname] at h
      dsimp only at h
      split_ifs at h with hweb
      exact ⟨⟨scheme, hscheme, hweb⟩, ⟨host, name, hhost, by simpa using hfilled, hname⟩, h⟩

/-- Whatever is not refused is the text of a URL that may be asked for. -/
theorem exists_requestable (h : refusal? text = none) :
    ∃ url, parse (Text.trimStart text.toList) = .ok url ∧ url.Requestable := by
  unfold refusal? at h
  dsimp only at h
  split_ifs at h
  split at h
  · cases h
  next url hparse =>
    obtain ⟨hscheme, hhost, huser⟩ := requestRefusal?_eq_none h
    have hport : ∀ port, url.port = some port → port ≤ greatestPort :=
      fun _ => port_le_of_parse hparse
    exact ⟨url, hparse, hscheme, hhost, hport, huser⟩

end Url

namespace Transfer

variable {http : HttpLayer} {url : String} {destination : FilePath} {timeout : Value} {s : Session}
  {f : Failure}

lemma get_checked_of_refusal (h : Url.refusal? url = some f) (calls : List Event) :
    http.checked.get url timeout calls = .error f := by
  simp only [HttpLayer.checked, h]

/-- A refused URL ends the download before anything is asked for and before the destination is
looked at. -/
theorem download_refused (h : Url.refusal? url = some f) :
    (download http.checked url destination timeout s).1 = .error (faultOf url f) ∧
      (download http.checked url destination timeout s).2.files = s.files ∧
      (Reported url f s (download http.checked url destination timeout s) ↔
        f.kind.isRequest = true) := by
  have hget : http.checked.get url timeout s.events = .error f := get_checked_of_refusal h s.events
  have hfetch : fetch http.checked url destination timeout s =
      (.error (0, f), { s with events := s.events ++ [.get url timeout] }) := fetch_unanswered hget
  have hdownload := download_of_fetch_error hfetch
  rw [hdownload, ← (Url.isRefusal_of_refusal? h).isSystem_eq]
  exact ⟨rfl, rfl, reported_iff rfl rfl⟩

/-- A URL that is not refused may be asked for, and the download is as without the check. -/
theorem download_checked (h : Url.refusal? url = none) :
    (∃ u, Url.parse (Text.trimStart url.toList) = .ok u ∧ u.Requestable) ∧
      download http.checked url destination timeout s =
        download http url destination timeout s := by
  have hget : http.checked.get url timeout = http.get url timeout := by
    funext calls
    simp only [HttpLayer.checked, h]
  have hfetch : fetch http.checked url destination timeout =
      fetch http url destination timeout := by
    rw [fetch, hget, fetch]
  refine ⟨Url.exists_requestable h, ?_⟩
  rw [download, hfetch, download]

/-- A bracket without its partner is a failure about a value, which is not reported. -/
example : (Url.refusal? "ftp://[h").map Failure.kind = some .value := by decide

end Transfer

end HostDiscovery
