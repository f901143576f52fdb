import HostDiscovery.Network.Interface
import HostDiscovery.Proofs.Field.Problems

/-! Where the errors are when addresses, interfaces and bindings are not made of their fields. There
is an error for every refusal, and each is at a declared field, or further down at an address in the
list of an interface. -/
namespace HostDiscovery

def Checked.ErrsAt {α : Type} (places : List FieldStep → Prop) (checked : Checked α) : Prop :=
  ∀ es, checked = .error es → es ≠ [] ∧ ∀ e ∈ es, places e.location

section ErrsAt

variable {α β : Type} {places : List FieldStep → Prop} {checked : Checked α}

namespace Checked

lemma errsAt_ok (a : α) : ErrsAt places (.ok a) := nofun

lemma Plain.errsAt (h : checked.Plain) (hwhole : places []) : checked.ErrsAt places := by
  rintro es hes
  rcases h with ⟨a, rfl⟩ | ⟨p, -, rfl⟩
  · cases hes
  · obtain rfl := Except.error.inj hes
    exact ⟨List.cons_ne_nil _ _, by simpa using hwhole⟩

lemma ErrsAt.map (h : checked.ErrsAt places) (f : α → β) : ErrsAt places (checked.map f) := by
  intro es hes
  cases checked with
  | ok a => cases hes
  | error fs =>
    obtain rfl := Except.error.inj hes
    exact h fs rfl

lemma ErrsAt.both {first : Checked α} {second : Checked β} (hfirst : first.ErrsAt places)
    (hsecond : second.ErrsAt places) : ErrsAt places (both first second) := by
  intro es hes
  cases first with
  | ok a =>
    cases second with
    | ok b => cases hes
    | error fs =>
      obtain rfl := Except.error.inj hes
      exact hsecond fs rfl
  | error fs =>
    cases second with
    | ok b =>
      obtain rfl := Except.error.inj hes
      exact hfirst fs rfl
    | error gs =>
      obtain rfl := Except.error.inj hes
      obtain ⟨hne, hfs⟩ := hfirst fs rfl
      obtain ⟨-, hgs⟩ := hsecond gs rfl
      exact ⟨List.append_ne_nil_of_left_ne_nil hne _, List.forall_mem_append.mpr ⟨hfs, hgs⟩⟩

lemma ErrsAt.under {step : FieldStep} (h : checked.ErrsAt fun steps => places (step :: steps)) :
    ErrsAt places (under step checked) := by
  intro es hes
  cases checked with
  | ok a => cases hes
  | error fs =>
    obtain rfl := Except.error.inj hes
    obtain ⟨hne, hfs⟩ := h fs rfl
    exact ⟨by simpa using hne, by simpa using hfs⟩

lemma errsAt_items {read : β → Checked α}
    (h : ∀ i v, (read v).ErrsAt fun steps => places (.index i :: steps)) (i : Nat)
    (values : List β) : ErrsAt places (items read i values) := by
  induction values generalizing i with
  | nil => exact errsAt_ok []
  | cons v values ih => exact (ErrsAt.both (h i v).under (ih (i + 1))).map _

end Checked

namespace Field

open Checked

variable {fields : Fields} {name : String} {read : Value → Checked α}

lemma errsAt_required (hplace : places [.name name]) (hread : ∀ v, (read v).Plain) :
    ErrsAt places (required fields name read) := by
  apply ErrsAt.under
  cases fields.get? name with
  | none => exact (plain_problem (by decide)).errsAt hplace
  | some v => exact (hread v).errsAt hplace

lemma errsAt_optional {default : α}
    (hread : ∀ v, (read v).ErrsAt fun steps => places (.name name :: steps)) :
    ErrsAt places (optional fields name read default) := by
  unfold optional
  cases fields.get? name with
  | none => exact errsAt_ok default
  | some v => exact (hread v).under

lemma errsAt_list (hwhole : places [])
    (hread : ∀ i v, (read v).ErrsAt fun steps => places (.index i :: steps)) (v : Value) :
    ErrsAt places (list read v) := by
  cases v with
  | list items => exact errsAt_items hread 0 items
  | null | bool | int | float | text | object => exact (plain_problem (by decide)).errsAt hwhole

lemma plain_optionalText (v : Value) : (optionalText v).Plain := by
  cases v with
  | null => exact plain_ok none
  | text s => exact plain_ok (some s)
  | bool | int | float | list | object => exact plain_problem (by decide)

end Field

end ErrsAt

open Checked

lemma IpVersion.plain_ofValue (v : Value) : (IpVersion.ofValue v).Plain := by
  unfold IpVersion.ofValue
  split
  · exact plain_ok _
  · exact plain_ok _
  · exact plain_problem (by split_ifs <;> decide)
  · exact plain_problem (by decide)

/-- A single step to a field with one of these names. -/
def AtField (names : List String) (steps : List FieldStep) : Prop :=
  ∃ name ∈ names, steps = [.name name]

lemma AtField.of_mem {names : List String} {name : String} (h : name ∈ names) :
    AtField names [.name name] := ⟨name, h, rfl⟩

namespace NetworkAddress

def declared : List String := ["address", "version", "scope_id"]

theorem errsAt_ofFields (fields : Fields) : (ofFields fields).ErrsAt (AtField declared) := by
  have haddress : AtField declared [.name "address"] := .of_mem (by decide)
  have hversion : AtField declared [.name "version"] := .of_mem (by decide)
  have hzone : AtField declared [.name "scope_id"] := .of_mem (by decide)
  refine ErrsAt.map (.both ?_ (.both ?_ ?_)) _
  · exact Field.errsAt_required haddress Field.plain_text
  · exact Field.errsAt_required hversion IpVersion.plain_ofValue
  · exact Field.errsAt_optional fun v => (Field.plain_optionalText v).errsAt hzone

end NetworkAddress

namespace Interface

/-- A field of an interface, an address in its list, or a field of that address. -/
inductive ErrorPlace : List FieldStep → Prop
  | field {steps : List FieldStep}
      (h : AtField ["name", "display_name", "is_up", "addresses"] steps) : ErrorPlace steps
  | address (i : Nat) : ErrorPlace [.name "addresses", .index i]
  | addressField (i : Nat) {steps : List FieldStep} (h : AtField NetworkAddress.declared steps) :
      ErrorPlace (.name "addresses" :: .index i :: steps)

theorem errsAt_ofFields (fields : Fields) : (ofFields fields).ErrsAt ErrorPlace := by
  have hname : ErrorPlace [.name "name"] := .field (.of_mem (by decide))
  have hdisplay : ErrorPlace [.name "display_name"] := .field (.of_mem (by decide))
  have hup : ErrorPlace [.name "is_up"] := .field (.of_mem (by decide))
  have hlist : ErrorPlace [.name "addresses"] := .field (.of_mem (by decide))
  have hitem (i : Nat) (v : Value) : (NetworkAddress.ofValue v).ErrsAt fun steps =>
      ErrorPlace (.name "addresses" :: .index i :: steps) := by
    cases v with
    | object fields =>
      intro es hes
      obtain ⟨hne, hplaces⟩ := NetworkAddress.errsAt_ofFields fields es hes
      exact ⟨hne, fun e he => .addressField i (hplaces e he)⟩
    | null | bool | int | float | text | list =>
      exact (plain_problem (by decide)).errsAt (.address i)
  refine ErrsAt.map (.both ?_ (.both ?_ (.both ?_ ?_))) _
  · exact Field.errsAt_required hname Field.plain_text
  · exact Field.errsAt_required hdisplay Field.plain_text
  · exact Field.errsAt_required hup Field.plain_bool
  · exact Field.errsAt_optional fun v => Field.errsAt_list hlist hitem v

end Interface

theorem PortBinding.errsAt_ofFields (fields : Fields) :
    (ofFields fields).ErrsAt (AtField ["address", "port"]) := by
  have haddress : AtField ["address", "port"] [.name "address"] := .of_mem (by decide)
  have hport : AtField ["address", "port"] [.name "port"] := .of_mem (by decide)
  refine ErrsAt.map (.both ?_ ?_) _
  · exact Field.errsAt_required haddress Field.plain_text
  · exact Field.errsAt_required hport Field.plain_portNumber

end HostDiscovery
