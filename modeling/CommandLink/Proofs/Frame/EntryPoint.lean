import CommandLink.Frame.EntryPoint
import Mathlib.Data.List.Forall2
import Mathlib.Tactic.Common

/-!
# Which values are entry points

`Json.Declares` says which version a value declares, and `Json.Offers` which entry point it
describes: an object with the version, the version of the server and, where it has any, the
commands. Reading gives the entry point of a value, and where it fails there is none
(`EntryPoint.read_eq_ok_iff`).
-/

namespace CommandLink

namespace Json

/-- A value is an object that holds a version. -/
def Declares (v : Json) (version : UInt32) : Prop :=
  ∃ fits, v.get? "protocol_version" = some (.num (.int version.toNat fits))

/-- A value describes a command: an object with both texts, or an array of just them. -/
def Lists (v : Json) (info : CommandInfo) : Prop :=
  (v.get? "name" = some (.str info.name) ∧ v.get? "description" = some (.str info.description)) ∨
    v = .arr [.str info.name, .str info.description]

/-- A value describes an entry point. Whatever else it holds does not count. -/
structure Offers (v : Json) (entryPoint : EntryPoint) : Prop where
  version : v.Declares entryPoint.protocolVersion
  server : v.get? "server_version" = some (.str entryPoint.serverVersion)
  commands : (v.get? "commands" = none ∧ entryPoint.commands = []) ∨
    ∃ items, v.get? "commands" = some (.arr items) ∧ List.Forall₂ Lists items entryPoint.commands

variable {α : Type} {v : Json}

theorem readText_eq_ok_iff {s : String} : v.readText = .ok s ↔ v = .str s := by
  cases v with
  | str t => simp [readText]
  | _ => simp [readText]

theorem readMember_eq_ok_iff {read : Json → Except ShapeFault α} {key : String} {found : Option α} :
    v.readMember read key = .ok found ↔
      (v.get? key = none ∧ found = none) ∨
        ∃ value a, v.get? key = some value ∧ read value = .ok a ∧ found = some a := by
  unfold readMember
  rcases v.get? key with _ | value
  · simp [eq_comm]
  · rcases hread : read value with fault | a
    · simp [Except.map, hread]
    · simp [Except.map, hread, eq_comm]

theorem uint32?_eq_some_iff {version : UInt32} :
    v.uint32? = some version ↔ ∃ fits, v = .num (.int version.toNat fits) := by
  have hlt := version.toNat_lt
  constructor
  · intro h
    unfold uint32? at h
    obtain ⟨n, hint, hn⟩ := Option.bind_eq_some_iff.mp h
    split_ifs at hn with hrange
    cases hn
    have hround : ((UInt32.ofNat n.toNat).toNat : Int) = n := by
      rw [UInt32.toNat_ofNat']
      omega
    unfold int? at hint
    split at hint
    · rename_i value fits
      cases hint
      exact ⟨by rw [hround]; exact fits, by congr 2; exact hround.symm⟩
    · cases hint
  · rintro ⟨fits, rfl⟩
    have hint : int? (.num (.int version.toNat fits)) = some (version.toNat : Int) := rfl
    have hrange : 0 ≤ (version.toNat : Int) ∧ (version.toNat : Int) < 4294967296 := by omega
    rw [uint32?, hint, Option.bind_eq_bind, Option.bind_some, if_pos hrange, Int.toNat_natCast,
      UInt32.ofNat_toNat]

/-- **The version of a value** is the one that it declares. -/
theorem protocolVersion?_eq_some_iff {version : UInt32} :
    v.protocolVersion? = some version ↔ v.Declares version := by
  rw [protocolVersion?, Option.bind_eq_some_iff]
  constructor
  · rintro ⟨member, hmember, hversion⟩
    obtain ⟨fits, rfl⟩ := uint32?_eq_some_iff.mp hversion
    exact ⟨fits, hmember⟩
  · rintro ⟨fits, hmember⟩
    exact ⟨_, hmember, uint32?_eq_some_iff.mpr ⟨fits, rfl⟩⟩

theorem Declares.unique {version other : UInt32} (h : v.Declares version)
    (h' : v.Declares other) : version = other :=
  Option.some.inj ((protocolVersion?_eq_some_iff.mpr h).symm.trans
    (protocolVersion?_eq_some_iff.mpr h'))

end Json

theorem mapM_eq_ok_iff {α β ε : Type} {read : α → Except ε β} {items : List α} {results : List β} :
    items.mapM read = .ok results ↔ List.Forall₂ (fun a b => read a = .ok b) items results := by
  induction items generalizing results with
  | nil => simp [pure, Except.pure, eq_comm]
  | cons item items ih =>
    rw [List.mapM_cons, List.forall₂_cons_left_iff]
    rcases hitem : read item with e | b
    · simp [bind, Except.bind]
    · rcases hitems : items.mapM read with e | bs
      · simp only [bind, Except.bind, reduceCtorEq, false_iff]
        rintro ⟨b', results', -, hrest, -⟩
        rw [← ih, hitems] at hrest
        cases hrest
      · simp only [bind, Except.bind, pure, Except.pure, Except.ok.injEq]
        constructor
        · rintro rfl
          exact ⟨b, bs, rfl, ih.mp hitems, rfl⟩
        · rintro ⟨b', results', rfl, hrest, rfl⟩
          rw [← ih, hitems] at hrest
          cases hrest
          rfl

/-- What is read in two steps is read if both are. -/
theorem bind_eq_ok_iff {α β ε : Type} {x : Except ε α} {f : α → Except ε β} {b : β} :
    (x >>= f) = .ok b ↔ ∃ a, x = .ok a ∧ f a = .ok b := by
  rcases x with e | a
  · simp [bind, Except.bind]
  · simp [bind, Except.bind]

theorem CommandInfo.read_obj_eq_ok_iff {members : List (String × Json)} {info : CommandInfo} :
    CommandInfo.read (.obj members) = .ok info ↔
      (Json.obj members).get? "name" = some (.str info.name) ∧
        (Json.obj members).get? "description" = some (.str info.description) := by
  simp only [CommandInfo.read, bind_eq_ok_iff, Json.readMember_eq_ok_iff, Json.readText_eq_ok_iff]
  constructor
  · rintro ⟨description?, hdescription, name?, hname, h⟩
    rcases hname with ⟨-, rfl⟩ | ⟨_, name, hname, rfl, rfl⟩
    · cases h
    · rcases hdescription with ⟨-, rfl⟩ | ⟨_, description, hdescription, rfl, rfl⟩
      · cases h
      · cases h
        exact ⟨hname, hdescription⟩
  · rintro ⟨hname, hdescription⟩
    exact ⟨some info.description, .inr ⟨_, _, hdescription, rfl, rfl⟩, some info.name,
      .inr ⟨_, _, hname, rfl, rfl⟩, rfl⟩

theorem CommandInfo.read_arr_eq_ok_iff {items : List Json} {info : CommandInfo} :
    CommandInfo.read (.arr items) = .ok info ↔ items = [.str info.name, .str info.description] := by
  rcases items with _ | ⟨name, _ | ⟨description, rest⟩⟩
  · simp [CommandInfo.read, throw, throwThe, MonadExceptOf.throw]
  · simp only [CommandInfo.read, bind_eq_ok_iff]
    constructor
    · rintro ⟨_, -, h⟩
      cases h
    · intro h
      cases h
  · simp only [CommandInfo.read, bind_eq_ok_iff, Json.readText_eq_ok_iff]
    constructor
    · rintro ⟨name, rfl, description, rfl, h⟩
      split_ifs at h with hrest
      · cases h
      · rw [not_not.mp hrest]
        cases h
        rfl
    · intro h
      cases h
      exact ⟨_, rfl, _, rfl, rfl⟩

theorem CommandInfo.read_eq_ok_iff {v : Json} {info : CommandInfo} :
    CommandInfo.read v = .ok info ↔ v.Lists info := by
  cases v with
  | obj members => simp [read_obj_eq_ok_iff, Json.Lists]
  | arr items => simp [read_arr_eq_ok_iff, Json.Lists, Json.get?]
  | _ => simp [CommandInfo.read, Json.Lists, Json.get?]

theorem CommandInfo.readAll_eq_ok_iff {v : Json} {infos : List CommandInfo} :
    CommandInfo.readAll v = .ok infos ↔ ∃ items, v = .arr items ∧ List.Forall₂ Json.Lists items infos := by
  cases v with
  | arr items =>
    simp only [CommandInfo.readAll, mapM_eq_ok_iff, CommandInfo.read_eq_ok_iff]
    simp
  | _ => simp [CommandInfo.readAll]

/-- **Reading an entry point** gives the one that the value describes. -/
theorem EntryPoint.read_eq_ok_iff {version : UInt32} {v : Json} {e : EntryPoint}
    (hv : v.Declares version) :
    EntryPoint.read version v = .ok e ↔ e.protocolVersion = version ∧ v.Offers e := by
  simp only [EntryPoint.read, bind_eq_ok_iff, Json.readMember_eq_ok_iff, Json.readText_eq_ok_iff,
    CommandInfo.readAll_eq_ok_iff]
  constructor
  · rintro ⟨commands?, hcommands, server?, hserver, h⟩
    rcases hserver with ⟨-, rfl⟩ | ⟨_, server, hserver, rfl, rfl⟩
    · cases h
    · cases h
      refine ⟨rfl, hv, hserver, ?_⟩
      rcases hcommands with ⟨hnone, rfl⟩ | ⟨_, commands, hcommands, ⟨items, rfl, hlists⟩, rfl⟩
      · exact .inl ⟨hnone, rfl⟩
      · exact .inr ⟨items, hcommands, hlists⟩
  · rintro ⟨rfl, -, hserver, ⟨hnone, hempty⟩ | ⟨items, hcommands, hlists⟩⟩
    · refine ⟨none, .inl ⟨hnone, rfl⟩, _, .inr ⟨_, _, hserver, rfl, rfl⟩, ?_⟩
      rw [Option.getD_none, ← hempty]
      rfl
    · exact ⟨_, .inr ⟨_, e.commands, hcommands, ⟨items, rfl, hlists⟩, rfl⟩, _,
        .inr ⟨_, _, hserver, rfl, rfl⟩, rfl⟩

end CommandLink
