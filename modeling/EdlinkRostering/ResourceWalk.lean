/-
The walk over the resource endpoints, page by page until the client says stop.

Transcribed from `connectors/edlink/client.py` (`get_resources`) and
`connectors/edlink/connector.py` (`walk_resources`).  The client reads the resources
fixture of the LEA, cuts one page out of the list of an endpoint and writes the offset
of the next page as a text; the loop of the walk hands that text back and stops when
the client says that there is no more.  The loop is run on fuel, and the page size is
a parameter.  A `none` is an exception of Python.

* `walkLoop_spec` — the loop over one endpoint stops, with the whole list projected;
* `walk_complete` — so the walk returns the projected rows of every family's list;
* `snapshot_eq_walkResources` — the walk over listings that `Connector` describes is
  this one on fixtures whose rows are dicts.
-/
import EdlinkRostering.Connector
import EdlinkRostering.Loops
import Mathlib.Algebra.Order.BigOperators.Group.List

/-! ### The fixture -/

/-- `<lea_id>.resources.json`: the file is missing, is not JSON, or holds a value. -/
inductive ResourcesFixture where
  | missing
  | malformed
  | json (raw : Json)

namespace ResourcesFixture

/-- The rows of an endpoint: a missing file, a missing key and a value that is not a list
give none; text that is not JSON and a value without `get` raise. -/
def entries : ResourcesFixture → String → Option (List Json)
  | .missing, _ => some []
  | .malformed, _ => none
  | .json (.obj fields), resourceType =>
    match Dict.get? fields resourceType with
    | some (.arr rows) => some rows
    | _ => some []
  | .json _, _ => none

end ResourcesFixture

/-! ### The client -/

/-- `int(text)` of the digits that `str(end)` writes. -/
def intOfText (text : String) : Option Nat :=
  if text ≠ "" ∧ text.toList.all Char.isDigit = true then
    some (Nat.ofDigitChars 10 text.toList 0)
  else none

/-- `int(next_token) if next_token else 0`. -/
def startOfToken : Option String → Option Nat
  | none => some 0
  | some token => if token = "" then some 0 else intOfText token

/-- One page of an endpoint, with the offset of the next page as a text. -/
structure ResourcePage where
  resources : List Json
  hasMore : Bool
  nextToken : Option String
  layer1 : Layer1Result

/-- `get_resources`. -/
def ResourcesFixture.getResources (fixture : ResourcesFixture) (resourceType : String)
    (first : Nat) (nextToken : Option String) : Option ResourcePage := do
  let allEntries ← fixture.entries resourceType
  let start ← startOfToken nextToken
  let page := (allEntries.drop start).take first
  let stop := start + page.length
  let hasMore := decide (stop < allEntries.length)
  some
    { resources := page
      hasMore := hasMore
      nextToken := if hasMore then some (toString stop) else none
      layer1 := { ok := true, httpStatus := 200, contentType := "application/json"
                  bodyWellFormed := true } }

/-! ### The walk -/

/-- `_project_resource` on a row as it comes; a row that is not a dict raises. -/
def projectRow (family : EntityFamily) : Json → Option (Option SnapshotEntry)
  | .obj fields => projectResource family fields
  | _ => none

/-- What the loop carries from one page to the next: `collected` and `next_token`. -/
structure WalkState where
  collected : List SnapshotEntry
  nextToken : Option String

def WalkState.start : WalkState := ⟨[], none⟩

/-- One turn of `while True`: get a page, project it, go on if there is more. -/
def walkTurn (fixture : ResourcesFixture) (pageSize : Nat) (family : EntityFamily)
    (s : WalkState) : Loop.Turn WalkState (Option (List SnapshotEntry)) :=
  match fixture.getResources family.resource pageSize s.nextToken with
  | none => .stop none
  | some response =>
    match collect (projectRow family) response.resources with
    | none => .stop none
    | some projected =>
      let collected := s.collected ++ projected
      if response.hasMore then .again ⟨collected, response.nextToken⟩ else .stop (some collected)

/-- The loop over one endpoint; the outer `none` is a loop that is still running. -/
def walkLoop (fixture : ResourcesFixture) (pageSize fuel : Nat) (family : EntityFamily) :
    Option (Option (List SnapshotEntry)) :=
  Loop.run (walkTurn fixture pageSize family) fuel .start

/-- The endpoints one after another; what raises ends the walk. -/
def walkFamilies (fixture : ResourcesFixture) (pageSize fuel : Nat) :
    List EntityFamily → Option (Option SnapshotPayload)
  | [] => some (some [])
  | family :: families =>
    match walkLoop fixture pageSize fuel family with
    | none => none
    | some none => some none
    | some (some rows) =>
      (walkFamilies fixture pageSize fuel families).map fun rest =>
        rest.map fun rest => (family.name, rows) :: rest

/-- `walk_resources`, on as much fuel for each endpoint. -/
def walk (fixture : ResourcesFixture) (pageSize fuel : Nat) : Option (Option SnapshotPayload) :=
  walkFamilies fixture pageSize fuel resourceWalk

/-! ### What the walk is for -/

namespace ResourcesFixture

/-- The family's list as canonical rows: the rows that belong in the table, each once and
in order, provided that none of the list raises. -/
def projected (fixture : ResourcesFixture) (family : EntityFamily) :
    Option (List SnapshotEntry) := do
  let rows ← fixture.entries family.resource
  if ∀ row ∈ rows, (projectRow family row).isSome = true then
    some (rows.filterMap fun row => (projectRow family row).join)
  else none

/-- The snapshot: every family with its projected list. -/
def snapshot (fixture : ResourcesFixture) : Option SnapshotPayload :=
  resourceWalk.mapM fun family => (fixture.projected family).map fun rows => (family.name, rows)

end ResourcesFixture

/-! ### Tokens -/

theorem intOfText_toString (n : Nat) : intOfText (toString n) = some n := by
  have hlist : (toString n).toList = Nat.toDigits 10 n := Nat.toList_repr
  have hne : toString n ≠ "" := by
    intro h
    rw [h] at hlist
    exact Nat.toDigits_ne_nil hlist.symm
  have hdigits : (toString n).toList.all Char.isDigit = true := by
    rw [hlist, List.all_eq_true]
    intro c hc
    exact Nat.isDigit_of_mem_toDigits (by decide) (by decide) hc
  rw [intOfText, if_pos ⟨hne, hdigits⟩, hlist, Nat.ofDigitChars_ten_toDigits]

/-- A token is read back as the offset it was written for. -/
theorem startOfToken_toString (n : Nat) : startOfToken (some (toString n)) = some n := by
  have hne : toString n ≠ "" := by
    intro h
    have hdigits := intOfText_toString n
    rw [h, intOfText, if_neg (by simp)] at hdigits
    exact nomatch hdigits
  rw [startOfToken, if_neg hne, intOfText_toString]

/-! ### The loop -/

section

variable {fixture : ResourcesFixture} {pageSize fuel : Nat} {family : EntityFamily}
  {rows : List Json} {s : WalkState}

/-- What a page is, when the list is there and the token is the offset of it. -/
theorem getResources_eq (pageSize : Nat) {resourceType : String} {nextToken : Option String}
    {start : Nat} (hrows : fixture.entries resourceType = some rows)
    (hstart : startOfToken nextToken = some start) :
    ∃ page, fixture.getResources resourceType pageSize nextToken = some page ∧
      page.resources = (rows.drop start).take pageSize ∧
      page.hasMore = decide (start + page.resources.length < rows.length) ∧
      (page.hasMore = true →
        page.nextToken = some (toString (start + page.resources.length))) := by
  rw [ResourcesFixture.getResources, hrows, hstart]
  exact ⟨_, rfl, rfl, rfl, fun hmore => if_pos hmore⟩

/-- The loop has read the first `start` rows and collected what they project to. -/
structure WalkState.Reads (rows : List Json) (family : EntityFamily) (start : Nat)
    (s : WalkState) : Prop where
  token : startOfToken s.nextToken = some start
  within : start ≤ rows.length
  collected : collect (projectRow family) (rows.take start) = some s.collected

theorem WalkState.Reads.start : WalkState.start.Reads rows family 0 where
  token := rfl
  within := Nat.zero_le _
  collected := rfl

/-- One turn reads one page: it stops with the whole list projected, or has read more of
it.  A page of at least one row is what makes the offset move. -/
theorem walkTurn_spec {start : Nat} (hpos : 0 < pageSize)
    (hrows : fixture.entries family.resource = some rows) (hs : s.Reads rows family start) :
    (∃ s' start', walkTurn fixture pageSize family s = .again s' ∧ s'.Reads rows family start' ∧
      start < start') ∨
    walkTurn fixture pageSize family s = .stop (collect (projectRow family) rows) := by
  obtain ⟨page, hpage, hres, hmore, htoken⟩ :=
    getResources_eq pageSize hrows hs.token
  have hlen : page.resources.length = min pageSize (rows.length - start) := by
    rw [hres, List.length_take, List.length_drop]
  -- the rows read after this turn
  have htake : rows.take (start + page.resources.length) = rows.take start ++ page.resources := by
    rw [List.take_add, hres]
    congr 1
    rw [List.take_eq_take_iff, List.length_take, List.length_drop]
    omega
  have hread : collect (projectRow family) (rows.take (start + page.resources.length))
      = (collect (projectRow family) page.resources).map (s.collected ++ ·) := by
    rw [htake, collect_append, hs.collected]
    cases collect (projectRow family) page.resources <;> rfl
  rw [walkTurn, hpage]
  by_cases h : start + page.resources.length < rows.length
  · have htrue : page.hasMore = true := by rw [hmore, decide_eq_true h]
    cases hall : collect (projectRow family) page.resources with
    | none =>
      -- a row of the page raises, so the list does
      right
      have hsplit : rows = rows.take (start + page.resources.length)
          ++ rows.drop (start + page.resources.length) := (List.take_append_drop _ _).symm
      rw [hsplit, collect_append, hread, hall]
      simp only [hall]
      rfl
    | some projected =>
      left
      refine ⟨⟨s.collected ++ projected, page.nextToken⟩, start + page.resources.length, ?_, ?_, ?_⟩
      · simp only [hall, htrue, if_true]
      · refine ⟨?_, by omega, ?_⟩
        · show startOfToken page.nextToken = _
          rw [htoken htrue, startOfToken_toString]
        · rw [hread, hall]
          rfl
      · omega
  · right
    have hfalse : page.hasMore = false := by rw [hmore, decide_eq_false h]
    have hwhole : rows.take (start + page.resources.length) = rows :=
      List.take_of_length_le (by omega)
    rw [hwhole] at hread
    rw [hread]
    cases hall : collect (projectRow family) page.resources with
    | none => simp only [hall]; rfl
    | some projected => simp [hall, hfalse]

/-- **The loop over one endpoint stops**, with the whole list projected.  The list is what
is left to read, so a turn for each row and one more is enough. -/
theorem walkLoop_spec (hpos : 0 < pageSize) (hrows : fixture.entries family.resource = some rows)
    (hfuel : rows.length < fuel) :
    walkLoop fixture pageSize fuel family = some (collect (projectRow family) rows) := by
  obtain ⟨result, hrun, rfl⟩ : ∃ result,
      walkLoop fixture pageSize fuel family = some result ∧
        result = collect (projectRow family) rows := by
    refine Loop.total (I := fun s => ∃ start, s.Reads rows family start)
      (m := fun s => rows.length - (startOfToken s.nextToken).getD 0) ?_ ?_
      ⟨0, .start⟩ (by simpa [WalkState.start, startOfToken] using hfuel)
    · rintro s s' ⟨start, hs⟩ hagain
      rcases walkTurn_spec hpos hrows hs with ⟨s₁, start', hturn, hs', hless⟩ | hturn
      · rw [hturn] at hagain
        obtain rfl : s₁ = s' := Loop.Turn.again.inj hagain
        have hwithin := hs'.within
        refine ⟨⟨start', hs'⟩, ?_⟩
        rw [hs.token, hs'.token, Option.getD_some, Option.getD_some]
        omega
      · rw [hturn] at hagain
        exact nomatch hagain
    · rintro s result ⟨start, hs⟩ hstop
      rcases walkTurn_spec hpos hrows hs with ⟨s₁, start', hturn, -, -⟩ | hturn
      · rw [hturn] at hstop
        exact nomatch hstop
      · rw [hturn] at hstop
        exact (Loop.Turn.stop.inj hstop).symm
  exact hrun

/-- A fixture that cannot be read raises in the first turn. -/
theorem walkLoop_raises (hrows : fixture.entries family.resource = none) :
    walkLoop fixture pageSize (fuel + 1) family = some none := by
  refine Loop.run_stop ?_ fuel
  rw [walkTurn, ResourcesFixture.getResources, hrows]
  rfl

/-! ### The whole walk -/

namespace ResourcesFixture

/-- A list is projected by the loop that skips what does not belong. -/
theorem projected_eq :
    fixture.projected family
      = (fixture.entries family.resource).bind (collect (projectRow family)) := by
  rw [projected]
  cases fixture.entries family.resource with
  | none => rfl
  | some rows =>
    show (if ∀ row ∈ rows, (projectRow family row).isSome = true then
      some (rows.filterMap fun row => (projectRow family row).join) else none)
      = collect (projectRow family) rows
    split
    · next hall => exact (collect_eq_some.mpr ⟨hall, rfl⟩).symm
    · next hraises =>
      cases h : collect (projectRow family) rows with
      | none => rfl
      | some collected => exact absurd (collect_eq_some.mp h).1 hraises

/-- How many turns the walk may need at one endpoint. -/
def turns (fixture : ResourcesFixture) (family : EntityFamily) : Nat :=
  ((fixture.entries family.resource).getD []).length + 1

end ResourcesFixture

theorem walkLoop_eq (hpos : 0 < pageSize) (hfuel : fixture.turns family ≤ fuel) :
    walkLoop fixture pageSize fuel family = some (fixture.projected family) := by
  rw [ResourcesFixture.turns] at hfuel
  rw [ResourcesFixture.projected_eq]
  cases hrows : fixture.entries family.resource with
  | none =>
    obtain ⟨k, rfl⟩ : ∃ k, fuel = k + 1 := ⟨fuel - 1, by omega⟩
    exact walkLoop_raises hrows
  | some rows =>
    rw [hrows, Option.getD_some] at hfuel
    exact walkLoop_spec hpos hrows (by omega)

/-- The endpoints in turn, each with fuel enough. -/
theorem walkFamilies_eq (hpos : 0 < pageSize) {families : List EntityFamily}
    (hfuel : ∀ family ∈ families, fixture.turns family ≤ fuel) :
    walkFamilies fixture pageSize fuel families
      = some (families.mapM fun family =>
          (fixture.projected family).map fun rows => (family.name, rows)) := by
  induction families with
  | nil => rfl
  | cons family families ih =>
    have hrest := ih fun f hf => hfuel f (List.mem_cons_of_mem _ hf)
    rw [walkFamilies, walkLoop_eq hpos (hfuel family List.mem_cons_self), hrest, List.mapM_cons]
    cases fixture.projected family with
    | none => rfl
    | some rows =>
      cases families.mapM fun family =>
        (fixture.projected family).map fun rows => (family.name, rows) <;> rfl

/-- **The walk is complete and ends.**  Whatever the fixture holds and whatever the page
size is, the loops stop, and what they leave behind is the snapshot of the fixture: for
each of the five families the projected rows of its whole list. -/
theorem walk_complete (fixture : ResourcesFixture) {pageSize : Nat} (hpos : 0 < pageSize) :
    ∃ turns, ∀ fuel, turns ≤ fuel → walk fixture pageSize fuel = some fixture.snapshot := by
  refine ⟨(resourceWalk.map fixture.turns).sum, fun fuel hfuel => walkFamilies_eq hpos ?_⟩
  intro family hfamily
  have hle : fixture.turns family ≤ (resourceWalk.map fixture.turns).sum :=
    List.le_sum_of_mem (List.mem_map_of_mem hfamily)
  omega

/-- Two people on a page each, the first of them not a student. -/
def twoPeople : ResourcesFixture :=
  .json (.obj
    [("people", .arr
      [.obj [("sourcedId", .str "tch-001"), ("roles", .arr [.str "teacher"])],
        .obj [("sourcedId", .str "stu-001"), ("roles", .arr [.str "student"])]])])

theorem walk_complete_twoPeople :
    0 < 1 ∧ (∃ turns, ∀ fuel, turns ≤ fuel → walk twoPeople 1 fuel = some twoPeople.snapshot) ∧
      twoPeople.snapshot.map (fun payload => payload.map fun f => (f.1, f.2.length))
        = some [("students", 1), ("enrollments", 0), ("classes", 0), ("academic_sessions", 0),
            ("schools", 0)] :=
  ⟨by omega, walk_complete twoPeople (by omega), by decide +kernel⟩

/-- The walk over listings of dicts, a hundred rows at a time. -/
theorem snapshot_eq_walkResources {resources : String → List Dict}
    (h : ∀ family : EntityFamily,
      fixture.entries family.resource = some ((resources family.resource).map Json.obj)) :
    fixture.snapshot = walkResources resources := by
  have hcollect : ∀ (family : EntityFamily) (dicts : List Dict),
      collect (projectRow family) (dicts.map Json.obj) = projectAll family dicts := by
    intro family dicts
    rw [projectAll]
    induction dicts with
    | nil => rfl
    | cons fields dicts ih =>
      rw [List.map_cons, collect, collect, ih]
      rfl
  rw [ResourcesFixture.snapshot, walkResources]
  congr 1
  funext family
  rw [ResourcesFixture.projected_eq, h family, Option.bind_some, hcollect, walkPages_eq,
    List.drop_zero]

end
