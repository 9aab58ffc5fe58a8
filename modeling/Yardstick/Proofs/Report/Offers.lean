import Yardstick.Proofs.Report.Build

/-!
# Offering metrics to a registry

A metric that is refused leaves a registry as it was, so that others may be offered after it. Whatever metrics
an empty registry is offered, it refuses those whose names are those of metrics it accepted before, and holds
the others in their order.

A registry may also be kept as a list of metrics together with the place of each name in it, which is looked
up in place of the list. It `Represents` the same registry after any offers.
-/

namespace Yardstick

/-! ## Offers in a row -/

section

variable {σ τ : Type}

/-- Metrics offered one after the other, each with the answer to it. -/
def offerAll (offer : σ → Metric → Except Error Unit × σ) :
    σ → List Metric → List (Metric × Except Error Unit) × σ
  | s, [] => ([], s)
  | s, m :: ms =>
    let offered := offer s m
    let rest := offerAll offer offered.2 ms
    ((m, offered.1) :: rest.1, rest.2)

/-- The metrics that were accepted. -/
def acceptedIn (offers : List (Metric × Except Error Unit)) : List Metric :=
  (offers.filter (·.2.isOk)).map (·.1)

theorem acceptedIn_append (offers offers' : List (Metric × Except Error Unit)) :
    acceptedIn (offers ++ offers') = acceptedIn offers ++ acceptedIn offers' := by
  rw [acceptedIn, List.filter_append, List.map_append]
  rfl

theorem map_fst_offerAll (offer : σ → Metric → Except Error Unit × σ) (s : σ) (ms : List Metric) :
    (offerAll offer s ms).1.map (·.1) = ms := by
  induction ms generalizing s with
  | nil => rfl
  | cons m ms ih => exact congrArg (m :: ·) (ih (offer s m).2)

/-- Registries that answer alike step after step answer alike to all offers. -/
theorem offerAll_of_simulation {offer : σ → Metric → Except Error Unit × σ}
    {offer' : τ → Metric → Except Error Unit × τ} {Related : σ → τ → Prop}
    (hstep : ∀ {s t}, Related s t → ∀ m,
      (offer s m).1 = (offer' t m).1 ∧ Related (offer s m).2 (offer' t m).2)
    {s : σ} {t : τ} (h : Related s t) (ms : List Metric) :
    (offerAll offer s ms).1 = (offerAll offer' t ms).1 ∧
      Related (offerAll offer s ms).2 (offerAll offer' t ms).2 := by
  induction ms generalizing s t with
  | nil => exact ⟨rfl, h⟩
  | cons m ms ih =>
    obtain ⟨hanswer, hrelated⟩ := hstep h m
    obtain ⟨hanswers, hrelated⟩ := ih hrelated
    refine ⟨?_, hrelated⟩
    rw [offerAll, offerAll, hanswer, hanswers]

end

/-! ## Registries under offers -/

namespace Registry

/-- The answer to a metric, and the registry after it. -/
def offer (r : Registry) (m : Metric) : Except Error Unit × Registry :=
  match r.register m with
  | .error e => (.error e, r)
  | .ok r' => (.ok (), r')

/-- What a metric may come to. -/
theorem offer_cases (r : Registry) (m : Metric) :
    (m.name ∈ r.names ∧ r.offer m = (.error (.duplicate m.name), r)) ∨
      m.name ∉ r.names ∧ ∃ r', r.offer m = (.ok (), r') ∧ r'.metrics = r.metrics ++ [m] := by
  by_cases hm : m.name ∈ r.names
  · refine .inl ⟨hm, ?_⟩
    rw [offer, register_of_mem hm]
  · obtain ⟨r', hr'⟩ := exists_register_of_not_mem hm
    refine .inr ⟨hm, r', ?_, metrics_of_register hr'⟩
    rw [offer, hr']

theorem metrics_offer (r : Registry) (m : Metric) :
    (r.offer m).2.metrics = r.metrics ++ acceptedIn [(m, (r.offer m).1)] := by
  rcases r.offer_cases m with ⟨-, h⟩ | ⟨-, r', h, hr'⟩
  · rw [h]
    exact (List.append_nil _).symm
  · rw [h]
    exact hr'

/-- A registry holds what it held and what it accepted since. -/
theorem metrics_offerAll (r : Registry) (ms : List Metric) :
    (offerAll offer r ms).2.metrics = r.metrics ++ acceptedIn (offerAll offer r ms).1 := by
  induction ms generalizing r with
  | nil => exact (List.append_nil _).symm
  | cons m ms ih =>
    show (offerAll offer (r.offer m).2 ms).2.metrics =
      r.metrics ++ acceptedIn ([(m, (r.offer m).1)] ++ (offerAll offer (r.offer m).2 ms).1)
    rw [ih, metrics_offer, acceptedIn_append, List.append_assoc]

/-- Every answer tells whether the registry held the name by then. The induction is on the offers before it. -/
theorem answer_of_offerAll {r : Registry} {ms : List Metric} {before after : List (Metric × Except Error Unit)}
    {m : Metric} {answer : Except Error Unit}
    (h : (offerAll offer r ms).1 = before ++ (m, answer) :: after) :
    answer = if m.name ∈ (r.metrics ++ acceptedIn before).map Metric.name then .error (.duplicate m.name)
      else .ok () := by
  induction before generalizing r ms with
  | nil =>
    cases ms with
    | nil => cases h
    | cons _ ms =>
      cases h
      have hnames : (r.metrics ++ acceptedIn []).map Metric.name = r.names :=
        congrArg (List.map Metric.name) (List.append_nil _)
      rw [hnames]
      rcases r.offer_cases m with ⟨hm, h⟩ | ⟨hm, r', h, -⟩
      · rw [h, if_pos hm]
      · rw [h, if_neg hm]
  | cons first before ih =>
    cases ms with
    | nil => cases h
    | cons n ms =>
      obtain ⟨rfl, hrest⟩ := List.cons.inj h
      have hmetrics : (r.offer n).2.metrics ++ acceptedIn before =
          r.metrics ++ acceptedIn ((n, (r.offer n).1) :: before) := by
        rw [metrics_offer, List.append_assoc, ← acceptedIn_append]
        rfl
      rw [ih hrest, hmetrics]

/-! ## What a registry tells -/

theorem contains_iff {r : Registry} {name : String} : r.contains name = true ↔ name ∈ r.names :=
  List.contains_iff_mem

theorem find?_eq_some_iff {r : Registry} {name : String} {m : Metric} :
    r.find? name = some m ↔ m ∈ r.metrics ∧ m.name = name := by
  constructor
  · intro h
    exact ⟨List.mem_of_find?_eq_some h, by simpa using List.find?_some h⟩
  · rintro ⟨hm, rfl⟩
    have hall := r.map_find?_names
    rw [names, List.map_map] at hall
    exact List.map_inj_left.1 hall m hm

theorem find?_eq_none_iff {r : Registry} {name : String} : r.find? name = none ↔ name ∉ r.names := by
  simp [find?, names, List.find?_eq_none]

theorem map_base_eq_filter (r : Registry) : r.base.map .base = r.metrics.filter (·.base?.isSome) := by
  rw [base]
  induction r.metrics with
  | nil => rfl
  | cons m ms ih =>
    cases m with
    | base b => exact congrArg (.base b :: ·) ih
    | computed c => exact ih

theorem map_computed_eq_filter (r : Registry) :
    r.computed.map .computed = r.metrics.filter (!·.base?.isSome) := by
  rw [computed]
  induction r.metrics with
  | nil => rfl
  | cons m ms ih =>
    cases m with
    | base b => exact ih
    | computed c => exact congrArg (.computed c :: ·) ih

theorem perm_metrics (r : Registry) :
    (r.base.map Metric.base ++ r.computed.map Metric.computed).Perm r.metrics := by
  rw [map_base_eq_filter, map_computed_eq_filter]
  exact List.filter_append_perm _ _

/-- No base metric has the name of a computed one. -/
theorem name_ne_of_mem {r : Registry} {b : BaseMetric} {c : ComputedMetric} (hb : b ∈ r.base)
    (hc : c ∈ r.computed) : b.name ≠ c.name := by
  have hnodup := (r.perm_metrics.map Metric.name).nodup_iff.2 r.nodup
  rw [List.map_append, List.nodup_append] at hnodup
  exact hnodup.2.2 _ (List.mem_map_of_mem (List.mem_map_of_mem hb)) _
    (List.mem_map_of_mem (List.mem_map_of_mem hc))

end Registry

/-! ## Registries with an index -/

/-- A list of metrics, and the place of each name in it. -/
structure IndexedRegistry where
  metrics : List Metric
  positions : Table Nat

namespace IndexedRegistry

def empty : IndexedRegistry := ⟨[], .empty⟩

def contains (s : IndexedRegistry) (name : String) : Bool := s.positions.contains name

/-- The metric in the place of the name, if the name has a place and a metric is there. -/
def find? (s : IndexedRegistry) (name : String) : Option Metric := do
  let position ← s.positions.get? name
  s.metrics[position]?

/-- Accepts a metric unless its name has a place. The name has its place before the metric is in it. -/
def register (m : Metric) : ExceptT Error (StateM IndexedRegistry) Unit := do
  if (← get).contains m.name then
    throw (.duplicate m.name)
  modify fun s => { s with positions := s.positions.put m.name s.metrics.length }
  modify fun s => { s with metrics := s.metrics ++ [m] }

/-- The answer to a metric, and the registry after it. -/
def offer (s : IndexedRegistry) (m : Metric) : Except Error Unit × IndexedRegistry :=
  StateT.run (ExceptT.run (register m)) s

/-- Both hold the same metrics, and the places are those of the names. -/
structure Represents (s : IndexedRegistry) (r : Registry) : Prop where
  metrics : s.metrics = r.metrics
  positions : ∀ name position, s.positions.get? name = some position ↔ r.names[position]? = some name

theorem offer_of_contains {s : IndexedRegistry} {m : Metric} (h : s.contains m.name = true) :
    s.offer m = (.error (.duplicate m.name), s) := by
  show (if s.contains m.name = true then _ else _ : ExceptT Error (StateM IndexedRegistry) Unit) s = _
  rw [if_pos h]
  rfl

theorem offer_of_not_contains {s : IndexedRegistry} {m : Metric} (h : ¬s.contains m.name = true) :
    s.offer m = (.ok (), ⟨s.metrics ++ [m], s.positions.put m.name s.metrics.length⟩) := by
  show (if s.contains m.name = true then _ else _ : ExceptT Error (StateM IndexedRegistry) Unit) s = _
  rw [if_neg h]
  rfl

theorem represents_empty : empty.Represents .empty :=
  ⟨rfl, fun _ _ => iff_of_false nofun nofun⟩

namespace Represents

variable {s : IndexedRegistry} {r : Registry} (h : s.Represents r)
include h

theorem contains_eq (name : String) : s.contains name = r.contains name := by
  rw [Bool.eq_iff_iff, Registry.contains_iff, contains, Table.contains, Option.isSome_iff_exists]
  simp only [h.positions, List.mem_iff_getElem?]

/-- The place of a name is that of the metric which the list is searched for. -/
theorem find?_eq (name : String) : s.find? name = r.find? name := by
  cases hposition : s.positions.get? name with
  | none =>
    have hunknown : name ∉ r.names := by
      rw [← Registry.contains_iff, ← h.contains_eq, contains, Table.contains, hposition]
      nofun
    rw [Registry.find?_eq_none_iff.2 hunknown, find?, hposition]
    rfl
  | some position =>
    have hname := (h.positions name position).1 hposition
    rw [Registry.names, List.getElem?_map] at hname
    obtain ⟨m, hm, hname⟩ := Option.map_eq_some_iff.1 hname
    rw [Registry.find?_eq_some_iff.2 ⟨List.mem_of_getElem? hm, hname⟩, find?, hposition, h.metrics]
    exact hm

/-- The place that a new metric gets is the one at the end of the list. -/
theorem append {m : Metric} (hnew : m.name ∉ r.names) {r' : Registry} (hr' : r'.metrics = r.metrics ++ [m]) :
    Represents ⟨s.metrics ++ [m], s.positions.put m.name s.metrics.length⟩ r' := by
  refine ⟨by rw [h.metrics, hr'], fun name position => ?_⟩
  have hnames : r'.names = r.names ++ [m.name] := by rw [Registry.names, hr', List.map_append]; rfl
  have hlength : s.metrics.length = r.names.length := by rw [h.metrics, Registry.names, List.length_map]
  have hconcat : (r.names ++ [m.name])[position]? = some name ↔
      r.names[position]? = some name ∨ position = r.names.length ∧ m.name = name := by
    grind
  rw [Table.get?_put, hnames, hconcat, hlength]
  split_ifs with hname
  · have hold : r.names[position]? ≠ some name := fun hold => hnew (hname ▸ List.mem_of_getElem? hold)
    rw [Option.some_inj, or_iff_right hold, and_iff_left hname.symm, eq_comm]
  · rw [h.positions]
    simp [Ne.symm hname]

/-- Both answer a metric alike. -/
theorem offer (m : Metric) :
    (s.offer m).1 = (r.offer m).1 ∧ (s.offer m).2.Represents (r.offer m).2 := by
  have hcontains : s.contains m.name = true ↔ m.name ∈ r.names := by rw [h.contains_eq, Registry.contains_iff]
  rcases r.offer_cases m with ⟨hm, hr⟩ | ⟨hm, r', hr, hr'⟩
  · rw [offer_of_contains (hcontains.2 hm), hr]
    exact ⟨rfl, h⟩
  · rw [offer_of_not_contains (hcontains.not.2 hm), hr]
    exact ⟨rfl, h.append hm hr'⟩

end Represents

theorem represents_offerAll (ms : List Metric) :
    (offerAll offer .empty ms).1 = (offerAll Registry.offer .empty ms).1 ∧
      (offerAll offer .empty ms).2.Represents (offerAll Registry.offer .empty ms).2 :=
  offerAll_of_simulation Represents.offer represents_empty ms

/-- A metric that is refused leaves both the list and the places as they were. -/
theorem eq_of_offer_eq_error {s : IndexedRegistry} {m : Metric} {e : Error} (h : (s.offer m).1 = .error e) :
    (s.offer m).2 = s := by
  by_cases hm : s.contains m.name = true
  · rw [offer_of_contains hm]
  · rw [offer_of_not_contains hm] at h
    cases h

end IndexedRegistry

/-! ## What is held after all offers -/

/-- Through everything that can be asked of it, the registry shows these metrics and no others. -/
structure Registry.Shows (r : Registry) (accepted : List Metric) : Prop where
  names : r.names = accepted.map Metric.name
  nodup : r.names.Nodup
  size : r.size = accepted.length
  contains : ∀ name, r.contains name = true ↔ name ∈ accepted.map Metric.name
  find?_name : ∀ m ∈ accepted, r.find? m.name = some m
  find?_none : ∀ name ∉ accepted.map Metric.name, r.find? name = none
  base : (r.base.map Metric.base).Sublist accepted
  computed : (r.computed.map Metric.computed).Sublist accepted
  perm : (r.base.map Metric.base ++ r.computed.map Metric.computed).Perm accepted
  disjoint : ∀ b ∈ r.base, ∀ c ∈ r.computed, b.name ≠ c.name

theorem Registry.shows_metrics (r : Registry) : r.Shows r.metrics where
  names := rfl
  nodup := r.nodup
  size := rfl
  contains _ := contains_iff
  find?_name _ hm := find?_eq_some_iff.2 ⟨hm, rfl⟩
  find?_none _ := find?_eq_none_iff.2
  base := r.map_base_eq_filter ▸ List.filter_sublist
  computed := r.map_computed_eq_filter ▸ List.filter_sublist
  perm := r.perm_metrics
  disjoint _ hb _ hc := name_ne_of_mem hb hc

/-- Whatever metrics an empty registry is offered, each is refused exactly if one that was accepted before has
its name, and then the registry stays as it was; in the end the registry shows the metrics that were accepted,
in this order. A list with an index that is looked up by name gives the same answers, and tells the same. -/
theorem Registry.shows_accepted (ms : List Metric) :
    let (offers, r) := offerAll offer .empty ms
    let (offers', s) := offerAll IndexedRegistry.offer .empty ms
    offers.map (·.1) = ms ∧
    (∀ before m answer after, offers = before ++ (m, answer) :: after →
      answer = if m.name ∈ (acceptedIn before).map Metric.name then .error (.duplicate m.name) else .ok ()) ∧
    (∀ (old : Registry) m e, (old.offer m).1 = .error e → (old.offer m).2 = old) ∧
    r.Shows (acceptedIn offers) ∧
    offers' = offers ∧
    (∀ (old : IndexedRegistry) m e, (old.offer m).1 = .error e → (old.offer m).2 = old) ∧
    s.metrics = r.metrics ∧ ∀ name, s.contains name = r.contains name ∧ s.find? name = r.find? name := by
  obtain ⟨hanswers, hrepresents⟩ := IndexedRegistry.represents_offerAll ms
  have hmetrics : (offerAll offer .empty ms).2.metrics = acceptedIn (offerAll offer .empty ms).1 :=
    metrics_offerAll .empty ms
  refine ⟨map_fst_offerAll offer .empty ms, fun _ _ _ _ => answer_of_offerAll, fun r m e h => ?_,
    hmetrics ▸ shows_metrics _, hanswers, fun s m e => IndexedRegistry.eq_of_offer_eq_error,
    hrepresents.metrics, fun name => ⟨hrepresents.contains_eq name, hrepresents.find?_eq name⟩⟩
  rcases r.offer_cases m with ⟨-, hr⟩ | ⟨-, r', hr, -⟩
  · rw [hr]
  · rw [hr] at h
    cases h

def bookingsMetric (label : String) : Metric :=
  .base ⟨"bookings", label, "", "outings", "COUNT(*)", none, by decide, by decide⟩

def fareMetric : Metric :=
  .computed ⟨"fare", "Fare", "", "outings", .average, "income", "bookings", by decide, by decide, by decide,
    by decide, by decide⟩

/-- The second metric for bookings is refused, after one of another kind was accepted, and the first stays. -/
theorem Registry.shows_accepted_bookings :
    let first := bookingsMetric "Bookings"
    let again := bookingsMetric "Other bookings"
    let (offers, r) := offerAll offer .empty [first, fareMetric, again]
    let (_, s) := offerAll IndexedRegistry.offer .empty [first, fareMetric, again]
    offers = [(first, .ok ()), (fareMetric, .ok ()), (again, .error (.duplicate "bookings"))] ∧
      (r.offer again).2 = r ∧ r.find? "bookings" = some first ∧ s.find? "bookings" = some first := by
  intro first again
  obtain ⟨-, hanswer, hrefused, hshows, -, -, -, htells⟩ := shows_accepted [first, fareMetric, again]
  obtain ⟨answer, hoffers⟩ : ∃ answer, (offerAll offer .empty [first, fareMetric, again]).1 =
      [(first, .ok ()), (fareMetric, .ok ()), (again, answer)] := ⟨_, rfl⟩
  have hagain : answer = .error (.duplicate "bookings") :=
    hanswer [(first, .ok ()), (fareMetric, .ok ())] again answer [] hoffers
  have hfirst : first ∈ acceptedIn (offerAll offer .empty [first, fareMetric, again]).1 := by
    rw [hoffers]
    exact List.mem_cons_self
  have hfind := hshows.find?_name first hfirst
  exact ⟨hagain ▸ hoffers, hrefused _ again _ rfl, hfind, (htells "bookings").2.trans hfind⟩

end Yardstick
