import Mathlib.Data.List.Nodup
import Courier.Config.Reader
import Courier.Proofs.Json.Reading
import Courier.Proofs.Json.Writing

/-!
# Configurations, read back

A configuration is read from any text of its settings: in any order, with any blanks, and among any
other members. A setting that the text leaves out has its usual value, and with none left out the
configuration is the one that was written.
-/

namespace Courier.Config

open Json

variable {c : Config} {k : Key} {ks : List Key} {before o rest : Octets} {first : Bool}
  {texts : List Octets} {members : List (String × Octets)}

/-! ## Settings -/

/-- The value of a setting as it is written. -/
def value (c : Config) : Key → Json
  | .version => .string c.version.toVersion.toString
  | .followsRedirects => .bool c.followsRedirects
  | .maxRedirects => .integer c.maxRedirects.toNat
  | .readTimeoutMs => match c.readTimeoutMs with
    | some ms => .integer ms.toNat
    | none => .null
  | .stripsCredentials => .bool c.stripsCredentials
  | .userAgent => match c.userAgent with
    | some agent => .string agent
    | none => .null

theorem toJson_eq (c : Config) :
    c.toJson = .object (Key.all.map fun k => (k.name, c.value k)) :=
  rfl

/-- The configuration with the usual values for the settings that are left out. -/
def reset (c : Config) (left : Key → Bool) : Config :=
  let usual : Config := {}
  { version := if left .version then usual.version else c.version
    followsRedirects :=
      if left .followsRedirects then usual.followsRedirects else c.followsRedirects
    maxRedirects := if left .maxRedirects then usual.maxRedirects else c.maxRedirects
    readTimeoutMs := if left .readTimeoutMs then usual.readTimeoutMs else c.readTimeoutMs
    stripsCredentials :=
      if left .stripsCredentials then usual.stripsCredentials else c.stripsCredentials
    userAgent := if left .userAgent then usual.userAgent else c.userAgent }

theorem reset_none (c : Config) : c.reset (fun _ => false) = c :=
  rfl

theorem Key.ofName?_name (k : Key) : Key.ofName? k.name = some k := by
  cases k
  all_goals rfl

theorem Key.eq_name_of_ofName? {name : String} (h : Key.ofName? name = some k) : k.name = name :=
  eq_of_beq (List.find?_some h :)

/-- All other names are of no setting. -/
theorem Key.ofName?_eq_none_iff {name : String} :
    Key.ofName? name = none ↔ ∀ k : Key, k.name ≠ name := by
  constructor
  · rintro hnone k rfl
    rw [Key.ofName?_name] at hnone
    exact absurd hnone (Option.some_ne_none k)
  · intro h
    cases hkey : Key.ofName? name with
    | none => rfl
    | some k => exact absurd (Key.eq_name_of_ofName? hkey) (h k)

/-- What is known once the values of these settings are read. -/
def given (c : Config) (ks : List Key) : Given where
  version := if .version ∈ ks then some c.version else none
  followsRedirects := if .followsRedirects ∈ ks then some c.followsRedirects else none
  maxRedirects := if .maxRedirects ∈ ks then some c.maxRedirects.toNat else none
  readTimeoutMs := if .readTimeoutMs ∈ ks then some (c.readTimeoutMs.map UInt64.toNat) else none
  stripsCredentials := if .stripsCredentials ∈ ks then some c.stripsCredentials else none
  userAgent := if .userAgent ∈ ks then some c.userAgent else none

theorem has_given (c : Config) (ks : List Key) (k : Key) :
    (c.given ks).has k = decide (k ∈ ks) := by
  cases k
  all_goals
    simp only [Given.has, given]
    split
    · next h => simp [h]
    · next h => simp [h]

theorem map_ite_some {α β : Type} {p : Prop} [Decidable p] (f : α → β) (a : α) :
    (if p then some a else none).map f = if p then some (f a) else none := by
  split
  · rfl
  · rfl

theorem getD_ite_some {α : Type} {p : Prop} [Decidable p] (a usual : α) :
    (if p then some a else none).getD usual = if !decide p then usual else a := by
  by_cases h : p
  · simp [h]
  · simp [h]

theorem toConfig_given (c : Config) (ks : List Key) :
    (c.given ks).toConfig = c.reset (fun k => !decide (k ∈ ks)) := by
  have hlimit : UInt32.ofNat c.maxRedirects.toNat = c.maxRedirects := UInt32.ofNat_toNat
  have htimeout : (c.readTimeoutMs.map UInt64.toNat).map UInt64.ofNat = c.readTimeoutMs := by
    cases c.readTimeoutMs with
    | none => rfl
    | some ms => exact congrArg some UInt64.ofNat_toNat
  simp only [Given.toConfig, given, reset, map_ite_some, getD_ite_some, hlimit, htimeout]

/-! ## Values -/

theorem readBool_append (b : Bool) (rest : Octets) :
    readBool ((if b then wordTrue else wordFalse) ++ rest) = .ok (b, rest) := by
  cases b with
  | true =>
    have hword : expect wordTrue (116 :: 114 :: 117 :: 101 :: rest) = .ok rest :=
      expect_append wordTrue rest
    change readBool (116 :: 114 :: 117 :: 101 :: rest) = _
    rw [readBool, peek_cons rfl, ok_bind]
    simp [hword, pure_eq_ok, ok_bind]
  | false =>
    have hword : expect wordFalse (102 :: 97 :: 108 :: 115 :: 101 :: rest) = .ok rest :=
      expect_append wordFalse rest
    change readBool (102 :: 97 :: 108 :: 115 :: 101 :: rest) = _
    rw [readBool, peek_cons rfl, ok_bind]
    simp [hword, pure_eq_ok, ok_bind]

theorem readText_append {s : String} (h : SpellsString s o) :
    readText (o ++ rest) = .ok (s, rest) := by
  have hread : readString (o ++ rest) = .ok (s, rest) := readString_append h
  obtain ⟨-⟩ := h
  rw [List.append_assoc, List.cons_append] at hread ⊢
  rw [readText, peek_cons rfl, ok_bind]
  exact hread

theorem readNat_append {n : NumberText} {i bound : Nat} (h : SpellsNumber n o)
    (hvalue : n.value = .ok (.integer i)) (hi : i < bound) (hrest : EndsNumber rest) :
    readNat bound (o ++ rest) = .ok (i, rest) := by
  have hread := readNumberText_append h hrest
  obtain ⟨b, more, rfl, hb⟩ := h.exists_cons
  rw [List.cons_append] at hread ⊢
  rw [readNat, peek_cons hb.isBlank, ok_bind]
  unfold StartsNumber at hb
  simp [hb, hread, hvalue, ok_bind, hi, pure_eq_ok]

theorem readOption_null {α : Type} (read : Octets → Except ReadError (α × Octets)) (rest : Octets) :
    readOption read (wordNull ++ rest) = .ok (none, rest) := by
  have hword : expect wordNull (110 :: 117 :: 108 :: 108 :: rest) = .ok rest :=
    expect_append wordNull rest
  change readOption read (110 :: 117 :: 108 :: 108 :: rest) = _
  rw [readOption, peek_cons rfl, ok_bind]
  simp [hword, pure_eq_ok, ok_bind]

theorem readOption_some {α : Type} {a : α} {b : UInt8}
    {read : Octets → Except ReadError (α × Octets)} (hb : isBlank b = false) (hnull : b ≠ 110)
    (hread : read (b :: o) = .ok (a, rest)) :
    readOption read (b :: o) = .ok (some a, rest) := by
  rw [readOption, peek_cons hb, ok_bind]
  simp [hnull, hread, pure_eq_ok, ok_bind]

theorem readVersion_append {v : ConfigVersion} (h : SpellsString v.toVersion.toString o) :
    readVersion (o ++ rest) = .ok (v, rest) := by
  have hread : readText (o ++ rest) = .ok (v.toVersion.toString, rest) := readText_append h
  have hname : ConfigVersion.ofName? v.toVersion.toString = some v := by
    cases v with
    | http10 => rfl
    | http11 => rfl
  obtain ⟨-⟩ := h
  rw [List.append_assoc, List.cons_append] at hread ⊢
  rw [readVersion, peek_cons rfl, ok_bind]
  change readVersionName _ = _
  rw [readVersionName, hread, ok_bind]
  dsimp only
  rw [hname]
  rfl

theorem readTimeout_append (h : SpellsScalar (c.value .readTimeoutMs) o) (hrest : EndsNumber rest) :
    readOption (readNat (Nat.pow 2 64)) (o ++ rest) =
      .ok (c.readTimeoutMs.map UInt64.toNat, rest) := by
  unfold value at h
  cases htimeout : c.readTimeoutMs with
  | none =>
    rw [htimeout] at h
    cases h with
    | null => exact readOption_null _ rest
  | some ms =>
    rw [htimeout] at h
    cases h with
    | integer h hvalue =>
      have hread := readNat_append h hvalue ms.toNat_lt hrest
      obtain ⟨b, more, rfl, hb⟩ := h.exists_cons
      exact readOption_some hb.isBlank (hb.ne (by decide)) hread

theorem readAgent_append (h : SpellsScalar (c.value .userAgent) o) :
    readOption readText (o ++ rest) = .ok (c.userAgent, rest) := by
  unfold value at h
  cases hagent : c.userAgent with
  | none =>
    rw [hagent] at h
    cases h with
    | null => exact readOption_null _ rest
  | some agent =>
    rw [hagent] at h
    cases h with
    | string h =>
      have hread : readText (o ++ rest) = .ok (agent, rest) := readText_append h
      obtain ⟨-⟩ := h
      exact readOption_some rfl (by decide) hread

theorem readValue_blanks (h : IsBlanks before) (g : Given) (k : Key) (o : Octets) :
    g.readValue k (before ++ o) = g.readValue k o := by
  cases k
  all_goals
    simp only [Given.readValue, readVersion, readBool, readNat, readOption, peek_blanks h]

/-- The value of a setting is read. -/
theorem readValue_append (ks : List Key) (h : SpellsScalar (c.value k) o)
    (hrest : EndsNumber rest) :
    (c.given ks).readValue k (o ++ rest) = .ok (c.given (k :: ks), rest) := by
  cases k with
  | version =>
    cases h with
    | string h =>
      rw [Given.readValue, readVersion_append h]
      simp [given, ok_bind, pure_eq_ok, Prod.map]
  | followsRedirects =>
    cases h with
    | bool =>
      rw [Given.readValue, readBool_append]
      simp [given, ok_bind, pure_eq_ok, Prod.map]
  | maxRedirects =>
    cases h with
    | integer h hvalue =>
      rw [Given.readValue, readNat_append h hvalue c.maxRedirects.toNat_lt hrest]
      simp [given, ok_bind, pure_eq_ok, Prod.map]
  | readTimeoutMs =>
    rw [Given.readValue, readTimeout_append h hrest]
    simp [given, ok_bind, pure_eq_ok, Prod.map]
  | stripsCredentials =>
    cases h with
    | bool =>
      rw [Given.readValue, readBool_append]
      simp [given, ok_bind, pure_eq_ok, Prod.map]
  | userAgent =>
    rw [Given.readValue, readAgent_append h]
    simp [given, ok_bind, pure_eq_ok, Prod.map]

/-! ## Members -/

/-- The settings that members are of. -/
def keysOf (members : List (String × Octets)) : List Key :=
  members.filterMap fun m => Key.ofName? m.1

theorem keysOf_setting {name : String} {value : Octets} (h : Key.ofName? name = some k) :
    keysOf ((name, value) :: members) = k :: keysOf members :=
  List.filterMap_cons_some h

theorem keysOf_other {name : String} {value : Octets} (h : Key.ofName? name = none) :
    keysOf ((name, value) :: members) = keysOf members :=
  List.filterMap_cons_none h

/-- A member that says the value of its setting, or one that is none of the settings. -/
def Tells (c : Config) (m : String × Octets) : Prop :=
  match Key.ofName? m.1 with
  | some k => SpellsScalar (c.value k) m.2
  | none => IsValue m.2

/-- A setting that was not given yet is taken over. -/
theorem readMembers_setting {a value text : Octets} {fuel : Nat} (h : IsLead first a)
    (hmember : IsMember k.name value text) (hvalue : SpellsScalar (c.value k) value) (hnew : k ∉ ks)
    (hrest : EndsNumber rest) :
    Given.readMembers (fuel + 1) first (c.given ks) (a ++ text ++ rest) =
      Given.readMembers fuel false (c.given (k :: ks)) rest := by
  obtain @⟨spelled, before, after, hname, hbefore, hafter⟩ := hmember
  simp only [List.append_assoc, List.cons_append]
  rw [Given.readMembers, nextMember_append h hname, ok_bind]
  dsimp only
  rw [readString_append hname, ok_bind]
  dsimp only
  rw [Key.ofName?_name, punctuation_append hbefore rfl]
  dsimp only
  rw [has_given, ok_bind, readValue_blanks hafter, readValue_append ks hvalue hrest]
  simp [hnew, ok_bind]

/-- A member that is no setting is passed over. -/
theorem readMembers_other {g : Given} {name : String} {a value text : Octets} {fuel : Nat}
    (h : IsLead first a) (hmember : IsMember name value text) (hname : Key.ofName? name = none)
    (hvalue : IsValue value) (hrest : EndsNumber rest) :
    Given.readMembers (fuel + 1) first g (a ++ text ++ rest) =
      Given.readMembers fuel false g rest := by
  obtain @⟨spelled, before, after, hspelled, hbefore, hafter⟩ := hmember
  have hskip : skipValue (fuelFor (after ++ (value ++ rest))) (value ++ rest) = .ok rest := by
    refine isSkipped_of_isValue hvalue ?_ hrest
    simp only [fuelFor, List.length_append]
    omega
  simp only [List.append_assoc, List.cons_append]
  rw [Given.readMembers, nextMember_append h hspelled, ok_bind]
  dsimp only
  rw [readString_append hspelled, ok_bind]
  dsimp only
  rw [hname, punctuation_append hbefore rfl]
  dsimp only
  rw [ok_bind, skipValue_blanks hafter, hskip]
  simp [ok_bind]

/-- **The loop over the members.** It takes over the settings among them and passes over the
others. -/
theorem readMembers_append {fuel : Nat} (h : IsListed first texts o)
    (hmembers : List.Forall₂ (fun m text => IsMember m.1 m.2 text) members texts)
    (htells : ∀ m ∈ members, c.Tells m) (hdistinct : (keysOf members ++ ks).Nodup)
    (hfuel : o.length < fuel) :
    Given.readMembers fuel first (c.given ks) (o ++ 125 :: rest) =
      .ok (c.given ((keysOf members).reverse ++ ks), rest) := by
  -- `ks` are the settings read so far, the last of them in front.
  induction h generalizing fuel members ks with
  | nil h =>
    obtain ⟨fuel, rfl⟩ := Nat.exists_eq_add_one_of_ne_zero (Nat.ne_zero_of_lt hfuel)
    cases hmembers
    rw [Given.readMembers, nextMember_close h]
    rfl
  | @cons first lead text o texts h h' ih =>
    obtain ⟨fuel, rfl⟩ := Nat.exists_eq_add_one_of_ne_zero (Nat.ne_zero_of_lt hfuel)
    obtain _ | @⟨⟨name, value⟩, _, members, _, hmember, hmembers⟩ := hmembers
    have hlt := hmember.length_lt
    simp only [List.length_append] at hfuel
    have hshorter : o.length < fuel := by omega
    have htell : c.Tells (name, value) := htells _ List.mem_cons_self
    have hmore : ∀ m ∈ members, c.Tells m := fun m hm => htells m (List.mem_cons_of_mem _ hm)
    have hends : EndsNumber (o ++ 125 :: rest) :=
      endsNumber_of_isListed h' (endsNumber_close (.inr rfl))
    unfold Tells at htell
    rw [List.append_assoc]
    cases hkey : Key.ofName? name with
    | none =>
      simp only [hkey] at htell
      rw [keysOf_other hkey] at hdistinct ⊢
      rw [readMembers_other h hmember hkey htell hends]
      exact ih hmembers hmore hdistinct hshorter
    | some k =>
      simp only [hkey] at htell
      obtain rfl := Key.eq_name_of_ofName? hkey
      rw [keysOf_setting hkey, List.cons_append] at hdistinct
      have hnew : k ∉ ks := fun hk =>
        (List.nodup_cons.1 hdistinct).1 (List.mem_append_right _ hk)
      have hleft : (keysOf members ++ k :: ks).Nodup := List.perm_middle.nodup_iff.2 hdistinct
      rw [readMembers_setting h hmember htell hnew hends, ih hmembers hmore hleft hshorter,
        keysOf_setting hkey, List.reverse_cons, List.append_assoc]
      rfl

/-! ## Texts -/

/-- A configuration is read from an object of which each member tells of it. -/
theorem read_of_tells {after : Octets} (h : IsObject members o) (htells : ∀ m ∈ members, c.Tells m)
    (hdistinct : (keysOf members).Nodup) (hbefore : IsBlanks before) (hafter : IsBlanks after) :
    read (before ++ o ++ after) = .ok (c.reset fun k => !decide (k ∈ keysOf members)) := by
  obtain @⟨texts, o, hmembers, h⟩ := h
  have hgiven : readGiven (before ++ (123 :: o ++ [125]) ++ after) =
      .ok (c.given ((keysOf members).reverse ++ []), after) := by
    rw [List.append_assoc, List.append_assoc, List.cons_append, readGiven, peek_append hbefore rfl,
      ok_bind]
    change Given.readMembers _ true (c.given []) (o ++ 125 :: after) = _
    refine readMembers_append h hmembers htells ?_ ?_
    · rwa [List.append_nil]
    · simp only [fuelFor, List.length_append, List.length_cons]
      omega
  rw [read, hgiven, finish, ok_bind]
  dsimp only
  rw [skipBlanks_of_isBlanks hafter]
  simp [ok_bind, pure_eq_ok, toConfig_given]

/-! ## Settings that are left out -/

/-- The members of the written configuration but those that are left out. -/
def writtenBut (c : Config) (left : Key → Bool) : List (String × Json) :=
  match c.toJson with
  | .object members => members.filter fun m => !(Key.ofName? m.1).any left
  | _ => []

/-- Members that say the value of each written setting but those that are left out, and others with
names of their own, in any order. -/
inductive TellsAllBut (c : Config) (left : Key → Bool) (members : List (String × Octets)) : Prop
  | mk {kept others : List (String × Octets)}
    (hkept : List.Forall₂ (fun w m => m.1 = w.1 ∧ SpellsScalar w.2 m.2) (c.writtenBut left) kept)
    (hothers : ∀ m ∈ others, (∀ k : Key, k.name ≠ m.1) ∧ IsValue m.2)
    (horder : members.Perm (kept ++ others)) : TellsAllBut c left members

/-- The settings that are not left out. -/
def keptKeys (left : Key → Bool) : List Key :=
  Key.all.filter fun k => !left k

theorem mem_keptKeys {left : Key → Bool} : k ∈ keptKeys left ↔ left k = false := by
  have hall : k ∈ Key.all := by
    cases k
    all_goals decide
  simp [keptKeys, hall]

theorem nodup_keptKeys (left : Key → Bool) : (keptKeys left).Nodup :=
  List.Nodup.filter _ (by decide)

theorem writtenBut_eq (c : Config) (left : Key → Bool) :
    c.writtenBut left = (keptKeys left).map fun k => (k.name, c.value k) := by
  simp only [writtenBut, toJson_eq, List.filter_map]
  congr 2
  funext k
  simp [Key.ofName?_name]

theorem tells_of_kept {kept : List (String × Octets)}
    (h : List.Forall₂ (fun k m => m.1 = Key.name k ∧ SpellsScalar (c.value k) m.2) ks kept) :
    (∀ m ∈ kept, c.Tells m) ∧ keysOf kept = ks := by
  induction h with
  | nil => exact ⟨nofun, rfl⟩
  | @cons k m ks kept hm _ ih =>
    obtain ⟨name, value⟩ := m
    obtain ⟨rfl, hvalue⟩ := hm
    have hkey := Key.ofName?_name k
    constructor
    · intro m hm
      rcases List.mem_cons.1 hm with rfl | hm
      · simpa [Tells, hkey] using hvalue
      · exact ih.1 m hm
    · rw [keysOf_setting hkey, ih.2]

theorem tells_of_others {others : List (String × Octets)}
    (h : ∀ m ∈ others, (∀ k : Key, k.name ≠ m.1) ∧ IsValue m.2) :
    (∀ m ∈ others, c.Tells m) ∧ keysOf others = [] := by
  constructor
  · intro m hm
    simpa [Tells, Key.ofName?_eq_none_iff.2 (h m hm).1] using (h m hm).2
  · exact List.filterMap_eq_nil_iff.2 fun m hm => Key.ofName?_eq_none_iff.2 (h m hm).1

theorem TellsAllBut.tells {left : Key → Bool} (h : c.TellsAllBut left members) :
    (∀ m ∈ members, c.Tells m) ∧ (keysOf members).Perm (keptKeys left) := by
  obtain @⟨kept, others, hkept, hothers, horder⟩ := h
  rw [writtenBut_eq, List.forall₂_map_left_iff] at hkept
  obtain ⟨hkept, hkeys⟩ := tells_of_kept hkept
  obtain ⟨hothers, hnone⟩ := tells_of_others hothers
  constructor
  · intro m hm
    rcases List.mem_append.1 (horder.mem_iff.1 hm) with hm | hm
    · exact hkept m hm
    · exact hothers m hm
  · have hall : keysOf (kept ++ others) = keptKeys left := by
      rw [keysOf, List.filterMap_append, ← keysOf, ← keysOf, hkeys, hnone, List.append_nil]
    rw [← hall]
    exact horder.filterMap _

theorem TellsAllBut.read_eq {left : Key → Bool} {after : Octets} (h : c.TellsAllBut left members)
    (ho : IsObject members o) (hbefore : IsBlanks before) (hafter : IsBlanks after) :
    read (before ++ o ++ after) = .ok (c.reset left) := by
  obtain ⟨htells, hkeys⟩ := h.tells
  have hleft : (fun k => !decide (k ∈ keysOf members)) = left := by
    funext k
    simp [hkeys.mem_iff, mem_keptKeys]
  rw [read_of_tells ho htells (hkeys.nodup_iff.2 (nodup_keptKeys left)) hbefore hafter, hleft]

/-! ## Written configurations -/

/-- The written form of a setting says its value. -/
theorem spellsScalar_value (c : Config) (k : Key) :
    SpellsScalar (c.value k) (Octets.ofText (c.value k).toText) := by
  cases k with
  | version => exact spellsScalar_string _
  | followsRedirects => exact spellsScalar_bool c.followsRedirects
  | maxRedirects =>
    exact spellsScalar_integer (Nat.lt_trans c.maxRedirects.toNat_lt (by decide))
  | readTimeoutMs =>
    unfold value
    cases c.readTimeoutMs with
    | none => exact .null
    | some ms => exact spellsScalar_integer ms.toNat_lt
  | stripsCredentials => exact spellsScalar_bool c.stripsCredentials
  | userAgent =>
    unfold value
    cases c.userAgent with
    | none => exact .null
    | some agent => exact spellsScalar_string agent

/-- The written settings tell of the configuration, some of them left out and others among them. -/
theorem tellsAllBut_written {left : Key → Bool} {others members : List (String × Json)}
    (hothers : ∀ m ∈ others, ∀ k : Key, k.name ≠ m.1)
    (horder : members.Perm (c.writtenBut left ++ others)) :
    c.TellsAllBut left (members.map written) := by
  have hkept : List.Forall₂ (fun w m => m.1 = w.1 ∧ SpellsScalar w.2 m.2) (c.writtenBut left)
      ((c.writtenBut left).map written) := by
    rw [List.forall₂_map_right_iff, List.forall₂_same, writtenBut_eq]
    intro w hw
    obtain ⟨k, -, rfl⟩ := List.mem_map.1 hw
    exact ⟨rfl, spellsScalar_value c k⟩
  have hvalues : ∀ m ∈ others.map written, (∀ k : Key, k.name ≠ m.1) ∧ IsValue m.2 := by
    intro m hm
    obtain ⟨other, hother, rfl⟩ := List.mem_map.1 hm
    exact ⟨hothers other hother, isValue_toText other.2⟩
  refine .mk hkept hvalues ?_
  rw [← List.map_append]
  exact horder.map written

/-- **Reading back.** A written configuration is read as it was but for the settings that are left
out of the object, which have their usual values, whatever the order of the members and whatever
else is among them. Any other text of such an object is read alike. -/
theorem reads_back (c : Config) (left : Key → Bool) :
    (∀ others members : List (String × Json), (∀ m ∈ others, ∀ k : Key, k.name ≠ m.1) →
      members.Perm (c.writtenBut left ++ others) →
      read (Octets.ofText (Json.object members).toText) = .ok (c.reset left)) ∧
    (∀ (members : List (String × Octets)) (before o after : Octets), c.TellsAllBut left members →
      IsObject members o → IsBlanks before → IsBlanks after →
      read (before ++ o ++ after) = .ok (c.reset left)) ∧
    ((∀ k, left k = false) → Json.object (c.writtenBut left) = c.toJson ∧ c.reset left = c) := by
  refine ⟨?_, ?_, ?_⟩
  · intro others members hothers horder
    have hread := (tellsAllBut_written hothers horder).read_eq (isObject_toText members)
      isBlanks_nil isBlanks_nil
    rwa [List.nil_append, List.append_nil] at hread
  · intro members before o after h ho hbefore hafter
    exact h.read_eq ho hbefore hafter
  · intro hnone
    rw [funext hnone]
    exact ⟨rfl, reset_none c⟩

/-- A configuration with a value of its own for each setting. -/
def ofOwn : Config where
  version := .http10
  followsRedirects := true
  maxRedirects := 7
  readTimeoutMs := some 30000
  stripsCredentials := false
  userAgent := some "a \"b\"\n"

/-- Without version and timeout, in another order, and with a member that is no setting. -/
theorem reads_back_reordered :
    read (Octets.ofText (Json.object
      [("hints", .array [.null, .object [("deep", .decimal true 15 (-1))]]),
        ("max_redirects", .integer 7),
        ("follow_redirects", .bool true),
        ("strip_sensitive_headers_on_redirect", .bool false),
        ("user_agent", .string "a \"b\"\n")]).toText) =
      .ok { ofOwn with version := .http11, readTimeoutMs := none } ∧
    read ([32] ++ Octets.ofText ofOwn.toJson.toText ++ [10]) = .ok ofOwn := by
  have hhints : ∀ m ∈ [("hints", Json.array [.null, .object [("deep", .decimal true 15 (-1))]])],
      ∀ k : Key, k.name ≠ m.1 := by
    intro m hm
    obtain rfl := List.mem_singleton.1 hm
    exact Key.ofName?_eq_none_iff.1 rfl
  have hblank : ∀ b : UInt8, isBlank b = true → IsBlanks [b] := by
    intro b hb b' hb'
    rwa [List.mem_singleton.1 hb']
  constructor
  · refine (reads_back ofOwn fun k => k == .version || k == .readTimeoutMs).1 _ _ hhints ?_
    exact ((List.Perm.swap _ _ _).cons _).trans (List.perm_append_singleton _ _).symm
  · obtain ⟨-, hread, hnone⟩ := reads_back ofOwn fun _ => false
    have htells : ofOwn.TellsAllBut (fun _ => false)
        ((ofOwn.writtenBut fun _ => false).map written) :=
      tellsAllBut_written (List.forall_mem_nil _) (by rw [List.append_nil])
    have hsame := hread _ _ _ _ htells (isObject_toText _) (hblank 32 rfl) (hblank 10 rfl)
    obtain ⟨hobject, hreset⟩ := hnone fun _ => rfl
    rw [hobject, hreset] at hsame
    exact hsame

end Courier.Config
