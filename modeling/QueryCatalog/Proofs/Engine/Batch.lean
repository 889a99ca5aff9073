import QueryCatalog.Proofs.Engine.Run
import QueryCatalog.Proofs.Engine.Fetch

/-!
A fetch for a batch of parents injects into each of them what it would inject if that parent were
alone. The query that is fetched reads a table of the storage by the values that it is given.
-/
namespace QueryCatalog

/-- A fetch that puts what it brings under a property of the parents. -/
structure Fetch.Injects (f : Fetch) (property : String) : Prop where
  eager : f.eager = true
  injection : f.injection = none
  property : f.property = some property

namespace Engine

variable {σ : Type} {e : Engine σ} {f : Fetch} {p : Prepared} {s : Session σ}

/-- In the session the target of the fetch, a query without fetches and hints, is executed for the
criteria and brings the rows. -/
def Brings (e : Engine σ) (f : Fetch) (context : Json) (s : Session σ) (criteria : Json)
    (rows : List Row) : Prop :=
  ∃ q t final u, (e.prepare f.target { criteria, context }).on s = (.ok q, t) ∧
    q.query.fetches = [] ∧ q.query.hints = [] ∧ q.final = .ok final ∧
    (e.selectRows q f.target final.statement (expectedFor f.maxSize) final.args).on t =
      (.ok rows, u)

/-- In the session the fetch is wanted for the rows, and its target brings those rows of a table
that it is asked for, in the table's order. -/
structure Reads (e : Engine σ) (f : Fetch) (p : Prepared) (table rows : List Row)
    (s : Session σ) : Prop where
  wanted : e.wanted p.name f { p.request.bindings with rows := some rows } = .ok true
  brings : e.Brings f p.request.context s (f.boundCriteria rows)
    (table.filter (f.selects (f.boundCriteria rows)))

theorem complete_plain {nested : Nested σ} {path : List String} {q : Prepared}
    (hfetches : q.query.fetches = []) (hhints : q.query.hints = []) (rows : List Row)
    (s : Session σ) : (e.complete nested path q rows).on s = (.ok rows, s) := by
  have hrun : (e.runFetches nested path q rows).on s = (.ok rows, s) := by
    unfold runFetches
    rw [hfetches]
    split_ifs <;> rfl
  have happly : e.handleHints q rows = .ok rows := by
    rw [handleHints, HintHandlers.apply, hhints]
    rfl
  rw [complete, Run.on_bind_ok hrun, Run.on_lift, happly]

theorem nested_of_brings {context criteria : Json} {rows : List Row}
    (h : e.Brings f context s criteria rows) (hsize : rows.length ≤ f.maxSize) (depth : Nat)
    (path : List String) :
    ∃ u, (e.nestedOf (depth + 1) path f.target { criteria, context } f.maxSize).on s =
      (.ok rows, u) := by
  obtain ⟨q, t, final, u, hprepare, hfetches, hhints, hfinal, hrows⟩ := h
  have hcapped : e.capped f.target f.maxSize rows = .ok rows := if_pos hsize
  refine ⟨u, ?_⟩
  rw [nestedOf, selectWithin, selectBy, Run.on_bind_ok hprepare]
  rw [Run.on_bind_ok (by rw [Run.on_lift, hfinal])]
  rw [Option.getD, Run.on_bind_ok hrows, Run.on_bind_ok (by rw [Run.on_lift, hcapped])]
  exact complete_plain hfetches hhints rows u

/-- Each parent of a batch is given its own rows of the table. -/
theorem runFetch_own {property : String} {table rows : List Row} {path : List String}
    (hproperty : f.Injects property) (hkeyed : f.Keyed) (hflat : f.FlatIn rows)
    (hpath : path.contains f.target = false) (hreads : e.Reads f p table rows s)
    (hsize : (table.filter (f.selects (f.boundCriteria rows))).length ≤ f.maxSize) (depth : Nat) :
    ((e.runFetch (e.nestedOf (depth + 1)) path p rows f).on s).1 =
      .ok (rows.map fun r => r.setPath property (f.own table r)) := by
  obtain ⟨u, hnested⟩ := nested_of_brings hreads.brings hsize depth (path ++ [f.target])
  have hinject : e.injectRows p.name f { p.request.bindings with rows := some rows }
      (table.filter (f.selects (f.boundCriteria rows))) rows =
        .ok (rows.map fun r => r.setPath property (f.own table r)) := by
    rw [injectRows, hproperty.injection, hproperty.property]
    refine congrArg Except.ok (List.map_congr_left fun r hr => ?_)
    rw [Fetch.injected_eq_own hkeyed hflat hr table]
  unfold runFetch
  simp only [hproperty.eager, Bool.not_true, Bool.false_eq_true, if_false]
  rw [Run.on_bind_ok (by rw [Run.on_lift, hreads.wanted])]
  simp only [Bool.not_true, Bool.false_eq_true, if_false]
  rw [Run.on_bind_ok (by rw [Run.on_lift, Fetch.criteria_eq hkeyed])]
  simp only [hpath, Bool.false_eq_true, if_false]
  rw [Run.on_bind_ok hnested, Run.on_lift, hinject]

/-- What a parent is given in a batch is what it is given by itself: its own rows of the table. -/
theorem batch_injects_as_alone {property : String} {table parents : List Row} {path : List String}
    (hproperty : f.Injects property) (hkeyed : f.Keyed) (hflat : f.FlatIn parents)
    (hpath : path.contains f.target = false) (hbatch : e.Reads f p table parents s)
    (hsize : (table.filter (f.selects (f.boundCriteria parents))).length ≤ f.maxSize)
    (depth : Nat) :
    ((e.runFetch (e.nestedOf (depth + 1)) path p parents f).on s).1 =
        .ok (parents.map fun r => r.setPath property (f.own table r)) ∧
      ∀ r ∈ parents, ∀ t, e.Reads f p table [r] t →
        ((e.runFetch (e.nestedOf (depth + 1)) path p [r] f).on t).1 =
          .ok [r.setPath property (f.own table r)] := by
  refine ⟨runFetch_own hproperty hkeyed hflat hpath hbatch hsize depth, ?_⟩
  intro r hr t halone
  have hflatOne : f.FlatIn [r] := fun q hq => (hflat q hq).single hr
  have hsizeOne := Nat.le_trans (Fetch.length_selects_le hkeyed hflat hr table) hsize
  exact runFetch_own hproperty hkeyed hflatOne hpath halone hsizeOne depth

def userRows : List Row :=
  [[("id", .str "a"), ("name", .str "ann")], [("id", .str "b"), ("name", .str "bob")],
    [("id", .str "c"), ("name", .str "cid")]]

/-- Reads the users by their ids. -/
def userStorage : Engine Unit where
  executor :=
    { get := fun _ _ _ s => (.ok none, s)
      select := fun _ _ _ args s =>
        (.ok (userRows.filter fun row => args.any fun v => row.get? "id" == some v), s) }

def usersById : Query :=
  .ofDefinition
    { name := "users"
      script := { kind := some .literal, code := some "SELECT * FROM users WHERE id IN (:id)" } }

def ownerKey : ParameterDefinition :=
  { name := "id", source := .parentResultField, sourceName := some "owner", distinct := true }

def userFetch : Fetch :=
  .ofDefinition
    { reference := "users", property := some "user", multiple := false, parameters := [ownerKey] }

/-- The same user twice, no user, another one, and no field for one. -/
def ownerRows : List Row :=
  [[("owner", .str "b")], [("owner", .null)], [("owner", .str "a")], [("owner", .str "b")], []]

def usersSession : Session Unit :=
  { store := { catalog := [("users", usersById)], running := true }, storage := () }

def ownerPrepared : Prepared :=
  { query := .ofDefinition { name := "orders" }
    request := {}
    bound := ⟨"SELECT owner FROM orders", []⟩
    expanded := true }

theorem userFetch_keyed : userFetch.Keyed where
  keys p hp := by
    rw [List.mem_singleton.mp hp]
    exact ⟨rfl, rfl, by decide⟩
  names := by decide

theorem ownerRows_flat : userFetch.FlatIn ownerRows := by
  intro p hp row hrow v hv
  rw [List.mem_singleton.mp hp] at hv
  simp only [ownerRows, List.mem_cons, List.not_mem_nil, or_false] at hrow
  rcases hrow with rfl | rfl | rfl | rfl | rfl <;> cases hv <;> rfl

theorem ownerRows_read :
    userStorage.Reads userFetch ownerPrepared userRows ownerRows usersSession :=
  ⟨rfl, _, _, ⟨"SELECT * FROM users WHERE id IN (?,?)", [.str "b", .str "a"]⟩, _,
    rfl, rfl, rfl, rfl, rfl⟩

theorem ownerRow_read :
    userStorage.Reads userFetch ownerPrepared userRows [[("owner", .str "b")]] usersSession :=
  ⟨rfl, _, _, ⟨"SELECT * FROM users WHERE id IN (?)", [.str "b"]⟩, _, rfl, rfl, rfl, rfl, rfl⟩

theorem batch_injects_as_alone_users :
    ((userStorage.runFetch (userStorage.nestedOf 1) ["orders"] ownerPrepared ownerRows
        userFetch).on usersSession).1 =
      .ok (ownerRows.map fun r => r.setPath "user" (userFetch.own userRows r)) ∧
    ((userStorage.runFetch (userStorage.nestedOf 1) ["orders"] ownerPrepared
        [[("owner", .str "b")]] userFetch).on usersSession).1 =
      .ok [Row.setPath [("owner", .str "b")] "user"
        (userFetch.own userRows [("owner", .str "b")])] ∧
    userFetch.own userRows [("owner", .str "b")] =
      .obj [("id", .str "b"), ("name", .str "bob")] := by
  have hpath : ["orders"].contains userFetch.target = false := by decide
  have hsize : (userRows.filter (userFetch.selects (userFetch.boundCriteria ownerRows))).length ≤
      userFetch.maxSize := by decide
  have hin : [("owner", Json.str "b")] ∈ ownerRows := List.mem_cons_self
  obtain ⟨hrows, hone⟩ := batch_injects_as_alone ⟨rfl, rfl, rfl⟩ userFetch_keyed ownerRows_flat
    hpath ownerRows_read hsize 0
  exact ⟨hrows, hone _ hin usersSession ownerRow_read, rfl⟩

end Engine

end QueryCatalog
