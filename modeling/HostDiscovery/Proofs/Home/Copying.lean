import HostDiscovery.Proofs.Home.Opening

/-! How a copy into a home ends. Every way is named once, with what it leaves. -/
namespace HostDiscovery.Home

section

variable (home : Home) (stream : Home.Stream) (target : String) (overwrite : Bool) (fs : FileSystem)

inductive Copying : Except Fault FilePath → FileSystem → Prop
  | unseen {f : Failure} (lookup : fs.entryAt (home.copyDestination target) = .error f) :
      Copying (.error (.failed f)) fs
  | kept {entry : Entry} (lookup : fs.entryAt (home.copyDestination target) = .ok (some entry))
      (keep : overwrite = false) : Copying (.ok (home.copyDestination target)) fs
  | unopened {entry : Option Entry} {f : Failure}
      (lookup : fs.entryAt (home.copyDestination target) = .ok entry)
      (replace : (entry.isSome && !overwrite) = false)
      (opening : fs.writable (home.copyDestination target) = .error f) :
      Copying (.error (copyFault (home.copyDestination target) f)) fs
  | cutOff {entry : Option Entry} {location : Location} {old : Bytes} {f : Failure}
      (lookup : fs.entryAt (home.copyDestination target) = .ok entry)
      (replace : (entry.isSome && !overwrite) = false)
      (opening : fs.writable (home.copyDestination target) = .ok (location, old))
      (broken : stream.broken = some f) :
      Copying (.error (copyFault (home.copyDestination target) f))
        (fs.put location (.file stream.content))
  | copied {entry : Option Entry} {location : Location} {old : Bytes}
      (lookup : fs.entryAt (home.copyDestination target) = .ok entry)
      (replace : (entry.isSome && !overwrite) = false)
      (opening : fs.writable (home.copyDestination target) = .ok (location, old))
      (whole : stream.broken = none) :
      Copying (.ok (home.copyDestination target)) (fs.put location (.file stream.content))

end

variable {home : Home} {stream : Home.Stream} {target : String} {overwrite : Bool} {s : Session}
  {f : Failure}

lemma copy_of_unseen (lookup : s.files.entryAt (home.copyDestination target) = .error f) :
    home.copy stream target overwrite s = (.error (.failed f), s) := by
  refine (Act.bind_of_ok rfl).trans ?_
  exact Act.bind_of_error (orFail_pathExists_error lookup s)

lemma copy_of_kept {entry : Entry}
    (lookup : s.files.entryAt (home.copyDestination target) = .ok (some entry)) :
    home.copy stream target false s = (.ok (home.copyDestination target), s) := by
  refine (Act.bind_of_ok rfl).trans ?_
  exact Act.bind_of_ok (orFail_pathExists_ok lookup s)

lemma copy_of_unopened {entry : Option Entry}
    (lookup : s.files.entryAt (home.copyDestination target) = .ok entry)
    (replace : (entry.isSome && !overwrite) = false)
    (opening : s.files.writable (home.copyDestination target) = .error f) :
    home.copy stream target overwrite s =
      (.error (copyFault (home.copyDestination target) f), s) := by
  refine (Act.bind_of_ok rfl).trans ?_
  refine (Act.bind_of_ok (orFail_pathExists_ok lookup s)).trans ?_
  rw [replace, if_neg Bool.false_ne_true, FileSystem.write, opening]
  rfl

lemma copy_of_opened {entry : Option Entry} {location : Location} {old : Bytes}
    (lookup : s.files.entryAt (home.copyDestination target) = .ok entry)
    (replace : (entry.isSome && !overwrite) = false)
    (opening : s.files.writable (home.copyDestination target) = .ok (location, old)) :
    home.copy stream target overwrite s =
      (match stream.broken with
        | some f => .error (copyFault (home.copyDestination target) f)
        | none => .ok (home.copyDestination target),
        { s with files := s.files.put location (.file stream.content) }) := by
  refine (Act.bind_of_ok rfl).trans ?_
  refine (Act.bind_of_ok (orFail_pathExists_ok lookup s)).trans ?_
  rw [replace, if_neg Bool.false_ne_true, FileSystem.write, opening]
  refine (Act.bind_of_ok rfl).trans ?_
  cases stream.broken <;> rfl

lemma exists_copying (home : Home) (stream : Home.Stream) (target : String) (overwrite : Bool)
    (s : Session) :
    ∃ r after, Copying home stream target overwrite s.files r after ∧
      home.copy stream target overwrite s = (r, { s with files := after }) := by
  cases lookup : s.files.entryAt (home.copyDestination target) with
  | error f => exact ⟨_, _, .unseen lookup, copy_of_unseen lookup⟩
  | ok entry =>
    cases replace : entry.isSome && !overwrite with
    | true =>
      obtain ⟨hentry, hkeep⟩ := Bool.and_eq_true_iff.mp replace
      obtain ⟨e, rfl⟩ := Option.isSome_iff_exists.mp hentry
      obtain rfl : overwrite = false := by simpa using hkeep
      exact ⟨_, _, .kept lookup rfl, copy_of_kept lookup⟩
    | false =>
      cases opening : s.files.writable (home.copyDestination target) with
      | error f =>
        exact ⟨_, _, .unopened lookup replace opening, copy_of_unopened lookup replace opening⟩
      | ok opened =>
        obtain ⟨location, old⟩ := opened
        have hcopy : home.copy stream target overwrite s = _ :=
          copy_of_opened lookup replace opening
        cases hbroken : stream.broken with
        | some f =>
          rw [hbroken] at hcopy
          exact ⟨_, _, .cutOff lookup replace opening hbroken, hcopy⟩
        | none =>
          rw [hbroken] at hcopy
          exact ⟨_, _, .copied lookup replace opening hbroken, hcopy⟩

end HostDiscovery.Home
