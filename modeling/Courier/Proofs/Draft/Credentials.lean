import Courier.Proofs.Base64
import Courier.Proofs.Draft.Refusal
import Courier.Proofs.Octets
import Courier.Proofs.Text

/-!
# User names and passwords

A server reads user name and password from a header value by decoding what follows `Basic ` and
cutting it at the first colon. What it reads is what a draft was given, as long as no colon is in
the user name. A colon there is taken for the one behind the user name: the draft does not refuse
it.
-/

namespace Courier

/-- The user name and the password that a server reads from a header value. -/
def FieldValue.basic? (v : FieldValue) : Option (Octets × Octets) := do
  let text ← v.text?
  let written ← Text.after? "Basic ".toList text
  let o ← Base64.decode written
  let (user, password) := o.cutAt 58
  return (user, ← password)

variable {v : FieldValue} {o : Octets} {user : String} {password : Option String}

theorem FieldValue.basic?_of_text? (h : v.text? = some ("Basic ".toList ++ Base64.encode o)) :
    v.basic? = (o.cutAt 58).2.map ((o.cutAt 58).1, ·) := by
  unfold basic?
  simp only [h, Option.bind_eq_bind, Option.bind_some, Text.after?_append, Base64.decode_encode]
  cases (o.cutAt 58).2 <;> rfl

namespace Draft

variable {d : Draft}

/-! ## The octets of user name and password -/

/-- The octets that are encoded: those of the user name, a colon, and those of the password. -/
theorem ofString_pair (user : String) (password : Option String) :
    Octets.ofString (user ++ ":" ++ password.getD "") =
      Octets.ofString user ++ 58 :: Octets.ofString (password.getD "") := by
  rw [Octets.ofString_append, Octets.ofString_append, List.append_assoc]
  rfl

theorem colon_mem_ofString_iff : 58 ∈ Octets.ofString user ↔ ':' ∈ user.toList := by
  rw [Octets.ofString_eq_ofText]
  exact Octets.mem_ofText_iff (c := ':') (by decide)

/-- Setting user name and password always sets a header, and what is read from its value is cut at
the first colon of the two. -/
theorem exists_basicAuth (d : Draft) (user : String) (password : Option String) :
    ∃ v, d.basicAuth user password = d.setField .authorization v ∧
      v.text? = some ("Basic ".toList ++ basicCredentials user password) := by
  have hvisible : ∀ c ∈ "Basic ".toList ++ basicCredentials user password, IsVisibleChar c := by
    intro c hc
    rcases List.mem_append.1 hc with hc | hc
    · have hall : ∀ c ∈ "Basic ".toList, IsVisibleChar c := by simp [IsVisibleChar]
      exact hall c hc
    · exact Base64.isVisibleChar_of_mem_encode hc
  obtain ⟨v, hv, htext⟩ := FieldValue.ofOctets?_ofText hvisible
  have hvalue : FieldValue.ofString?
      ("Basic " ++ String.ofList (basicCredentials user password)) = some v := by
    rw [← hv, Octets.ofText, String.ofList_append, String.ofList_toList]
    rfl
  refine ⟨v.hidden, ?_, htext⟩
  rw [basicAuth, credential, hvalue]

/-- What may become of a user name and a password: a failure is recorded for input that cannot be
used, or one value is set, in the draft and in every request that it makes, and a server reads user
name and password from it. -/
inductive Conveys (d : Draft) (user : String) (password : Option String) : Prop
  | refuses {f : Failure} (hnone : d.failure = none)
    (hfailure : (d.basicAuth user password).failure = some f) (hstage : f.stage = .builder)
  | sends {v : FieldValue}
    (hfields : (d.basicAuth user password).fields.getAll FieldName.authorization.text = [v])
    (hrequest : ∀ method address q, (d.basicAuth user password).toRequest method address = .ok q →
      q.descriptor.fields.getAll FieldName.authorization.text = [v])
    (hread : v.basic? = some (Octets.ofString user, Octets.ofString (password.getD "")))

/-- A header that is set in a draft is set in its requests. -/
theorem getAll_toRequest_setField {n : FieldName} {method : Method} {address : Text} {q : Request}
    (hq : (d.setField n v).toRequest method address = .ok q) :
    q.descriptor.fields.getAll n.text = [v] := by
  have hvalues : (d.fields.insert n v).getAll n.text = [v] :=
    Fields.getAll_insert (FieldName.lower_text n).symm
  have hname : n ∈ (d.fields.insert n v).names := by
    rw [Fields.mem_names_iff, ← Fields.contains_text_iff]
    apply Fields.contains_of_getAll_ne_nil
    rw [hvalues]
    exact List.cons_ne_nil v []
  obtain ⟨hfailure, a, ha⟩ := of_toRequest hq
  rw [toRequest_eq hfailure ha] at hq
  cases hrequest : (d.setField n v).client.request method
      (extendQuery a (d.setField n v).query).toText with
  | error f =>
    rw [hrequest] at hq
    cases hq
  | ok q₀ =>
    rw [hrequest] at hq
    cases hq
    exact (Fields.getAll_replay hname).trans hvalues

/-- What a server reads after user name and password were set: the two are cut at the first colon
in them. -/
theorem basic?_of_basicAuth (hset : d.basicAuth user password = d.setField .authorization v)
    (htext : v.text? = some ("Basic ".toList ++ basicCredentials user password)) :
    (d.basicAuth user password).fields.getAll FieldName.authorization.text = [v] ∧
      v.basic? = ((Octets.ofString (user ++ ":" ++ password.getD "")).cutAt 58).2.map
        (((Octets.ofString (user ++ ":" ++ password.getD "")).cutAt 58).1, ·) := by
  refine ⟨?_, FieldValue.basic?_of_text? htext⟩
  rw [hset]
  exact Fields.getAll_insert rfl

theorem conveys_of_not_mem (hcolon : ':' ∉ user.toList) : d.Conveys user password := by
  obtain ⟨v, hset, htext⟩ := exists_basicAuth d user password
  obtain ⟨hfields, hread⟩ := basic?_of_basicAuth hset htext
  refine .sends hfields ?_ ?_
  · intro method address q hq
    rw [hset] at hq
    exact getAll_toRequest_setField hq
  · rw [hread, ofString_pair, Octets.cutAt_append (colon_mem_ofString_iff.not.2 hcolon)]
    rfl

/-- A colon in a user name is not refused, and no server reads a user name that holds one. -/
theorem not_conveys_of_mem (hcolon : ':' ∈ user.toList) : ¬ d.Conveys user password := by
  obtain ⟨v, hset, htext⟩ := exists_basicAuth d user password
  obtain ⟨hvalues, hread⟩ := basic?_of_basicAuth hset htext
  rintro (⟨hnone, hfailure, -⟩ | ⟨hfields, -, hback⟩)
  · rw [hset] at hfailure
    cases hnone.symm.trans hfailure
  · cases hvalues.symm.trans hfields
    obtain ⟨after, -, hcut⟩ := Option.map_eq_some_iff.1 (hread.symm.trans hback)
    have huser := congrArg Prod.fst hcut
    dsimp only at huser
    have hmem := colon_mem_ofString_iff.2 hcolon
    rw [← huser] at hmem
    exact Octets.not_mem_fst_cutAt hmem

/-- **User names and passwords.** User name and password are read back from the header, whatever
they hold and whatever was called before, just if no colon is in the user name. -/
theorem conveys_iff (d : Draft) (user : String) (password : Option String) :
    d.Conveys user password ↔ ':' ∉ user.toList := by
  constructor
  · intro hconveys hcolon
    exact not_conveys_of_mem hcolon hconveys
  · exact conveys_of_not_mem

theorem not_conveys_colon :
    ¬ Conveys { client := .ofPeer { script := .list [] } } "a:b" (some "c") :=
  not_conveys_of_mem (by decide)

end Draft

end Courier
