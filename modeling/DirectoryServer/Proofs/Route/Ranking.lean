import DirectoryServer.Route.Table

set_option autoImplicit false

namespace DirectoryServer

variable {σ : Type}

namespace Route

-- A route without a name predicate has no length, which is less than any.
def nameLength? (route : Route σ) : Option Nat :=
  route.nameSuffix.map String.length

theorem name_length_le_iff (a b : Route σ) : a.nameLength? ≤ b.nameLength? ↔ a.weight ≤ b.weight := by
  cases first : a.nameSuffix <;> cases second : b.nameSuffix <;>
    simp [nameLength?, weight, first, second]

theorem name_length_lt_iff (a b : Route σ) : a.nameLength? < b.nameLength? ↔ a.weight < b.weight := by
  cases first : a.nameSuffix <;> cases second : b.nameSuffix <;>
    simp [nameLength?, weight, first, second]

theorem name_length_eq_iff (a b : Route σ) : a.nameLength? = b.nameLength? ↔ a.weight = b.weight := by
  cases first : a.nameSuffix <;> cases second : b.nameSuffix <;>
    simp [nameLength?, weight, first, second]

theorem length_le_of_lt (a b : Route σ) (shorter : a.nameLength? < b.nameLength?) :
    a.nameLength? ≤ b.nameLength? := by
  rw [name_length_lt_iff] at shorter
  rw [name_length_le_iff]
  exact Nat.le_of_lt shorter

theorem length_ne_of_lt (a b : Route σ) (shorter : a.nameLength? < b.nameLength?) :
    a.nameLength? ≠ b.nameLength? := by
  rw [name_length_lt_iff] at shorter
  rw [ne_eq, name_length_eq_iff]
  exact Nat.ne_of_lt shorter

def notShorter (a b : Route σ) : Bool :=
  (compare b.nameLength? a.nameLength?).isLE

theorem not_shorter_iff (a b : Route σ) : a.notShorter b = true ↔ b.nameLength? ≤ a.nameLength? := by
  rw [notShorter]
  cases b.nameLength? with
  | none => cases a.nameLength? <;> simp [compare]
  | some length =>
      cases a.nameLength? with
      | none => simp [compare]
      | some other => exact Nat.isLE_compare.trans Option.some_le_some.symm

theorem not_shorter_trans (a b c : Route σ) :
    a.notShorter b → b.notShorter c → a.notShorter c := by
  simp only [not_shorter_iff, name_length_le_iff]
  omega

theorem not_shorter_total (a b : Route σ) : a.notShorter b || b.notShorter a := by
  simp only [Bool.or_eq_true, not_shorter_iff, name_length_le_iff]
  omega

def ofLength (length : Option Nat) (routes : List (Route σ)) : List (Route σ) :=
  routes.filter (·.nameLength? = length)

theorem mem_of_length (length : Option Nat) (routes : List (Route σ)) (route : Route σ) :
    route ∈ ofLength length routes ↔ route ∈ routes ∧ route.nameLength? = length := by
  rw [ofLength, List.mem_filter, decide_eq_true_eq]

theorem of_length_append (length : Option Nat) (front back : List (Route σ)) :
    ofLength length (front ++ back) = ofLength length front ++ ofLength length back :=
  List.filter_append _ _

theorem of_length_nil (length : Option Nat) (routes : List (Route σ))
    (none_ : ∀ route ∈ routes, route.nameLength? ≠ length) : ofLength length routes = [] := by
  refine List.filter_eq_nil_iff.mpr fun route member => ?_
  simpa using none_ route member

theorem insert_into_split (route : Route σ) (routes : List (Route σ))
    (ordered : routes.Pairwise fun a b => b.nameLength? ≤ a.nameLength?) :
    ∃ front back, routes = front ++ back ∧ route.insertInto routes = front ++ route :: back ∧
      (∀ other ∈ front, route.nameLength? ≤ other.nameLength?) ∧
      ∀ other ∈ back, other.nameLength? < route.nameLength? := by
  simp only [name_length_le_iff, name_length_lt_iff] at ordered ⊢
  induction routes with
  | nil => exact ⟨[], [], rfl, rfl, List.forall_mem_nil _, List.forall_mem_nil _⟩
  | cons head rest ih =>
      obtain ⟨first, later⟩ := List.pairwise_cons.mp ordered
      by_cases lighter : head.weight < route.weight
      · refine ⟨[], head :: rest, rfl, by rw [insertInto, if_pos lighter, List.nil_append],
          List.forall_mem_nil _, List.forall_mem_cons.mpr ⟨lighter, ?_⟩⟩
        intro other member
        exact Nat.lt_of_le_of_lt (first other member) lighter
      · obtain ⟨front, back, same, inserted, heavy, light⟩ := ih later
        refine ⟨head :: front, back, by rw [same, List.cons_append], ?_,
          List.forall_mem_cons.mpr ⟨Nat.le_of_not_lt lighter, heavy⟩, light⟩
        rw [insertInto, if_neg lighter, inserted, List.cons_append]

end Route

open Route

structure Ranked (registered ranked : List (Route σ)) : Prop where
  all : ranked.Perm registered
  longestFirst : ranked.Pairwise fun a b => b.nameLength? ≤ a.nameLength?
  inTurn : ∀ length, ofLength length ranked = ofLength length registered

theorem ranked_nothing : @Ranked σ [] [] :=
  ⟨List.Perm.refl _, List.Pairwise.nil, fun _ => rfl⟩

-- The routes behind the new one are all shorter, so it is the last one of its own length.
theorem ranked_insert (registered ranked : List (Route σ)) (route : Route σ)
    (order : Ranked registered ranked) : Ranked (registered ++ [route]) (route.insertInto ranked) := by
  obtain ⟨front, back, rfl, inserted, longer, shorter⟩ := route.insert_into_split ranked order.longestFirst
  rw [inserted]
  refine ⟨?_, ?_, fun length => ?_⟩
  · exact List.perm_middle.trans ((order.all.cons route).trans (List.perm_append_singleton route _).symm)
  · obtain ⟨first, last, across⟩ := List.pairwise_append.mp order.longestFirst
    have behind := fun other member => length_le_of_lt other route (shorter other member)
    refine List.pairwise_append.mpr ⟨first, List.pairwise_cons.mpr ⟨behind, last⟩, ?_⟩
    intro other member
    exact List.forall_mem_cons.mpr ⟨longer other member, across other member⟩
  · have before := order.inTurn length
    rw [of_length_append] at before
    rw [← List.singleton_append, of_length_append, of_length_append, of_length_append, ← before]
    by_cases same : route.nameLength? = length
    · have behind : ofLength length back = [] :=
        of_length_nil length back fun other member equal =>
          length_ne_of_lt other route (shorter other member) (equal.trans same.symm)
      rw [behind, List.append_nil, List.append_nil]
    · have elsewhere : ofLength length [route] = [] :=
        of_length_nil length [route] (List.forall_mem_singleton.mpr same)
      rw [elsewhere, List.nil_append, List.append_nil]

theorem register_all_ranked (table : RouteTable σ) (registered routes : List (Route σ))
    (order : Ranked registered table.routes) :
    Ranked (registered ++ routes) (table.registerAll routes).routes := by
  induction routes generalizing table registered with
  | nil => rwa [List.append_nil]
  | cons route rest ih =>
      have later := ih (table.register route) (registered ++ [route]) (ranked_insert _ _ route order)
      rwa [List.append_assoc] at later

theorem registrations_ranked (routes : List (Route σ)) :
    Ranked routes (RouteTable.registerAll {} routes).routes :=
  register_all_ranked {} [] routes ranked_nothing

theorem register_all_not_found (table : RouteTable σ) (routes : List (Route σ)) :
    (table.registerAll routes).notFound = table.notFound := by
  induction routes generalizing table with
  | nil => rfl
  | cons route rest ih => exact ih (table.register route)

def Foremost (routes : List (Route σ)) (route : Route σ) : Prop :=
  ∃ earlier later, routes = earlier ++ route :: later ∧
    (∀ other ∈ earlier, other.nameLength? < route.nameLength?) ∧
    ∀ other ∈ later, other.nameLength? ≤ route.nameLength?

theorem foremost_iff (routes : List (Route σ)) (route : Route σ) :
    Foremost routes route ↔ (∀ other ∈ routes, other.nameLength? ≤ route.nameLength?) ∧
      (ofLength route.nameLength? routes).head? = some route := by
  constructor
  · rintro ⟨earlier, later, rfl, shorter, most⟩
    have front : ofLength route.nameLength? earlier = [] :=
      of_length_nil _ earlier fun other member => length_ne_of_lt other route (shorter other member)
    refine ⟨fun other member => ?_, ?_⟩
    · rcases List.mem_append.mp member with member | member
      · exact length_le_of_lt other route (shorter other member)
      · rcases List.mem_cons.mp member with rfl | member
        · exact (name_length_le_iff _ _).mpr (Nat.le_refl _)
        · exact most other member
    · rw [of_length_append, front, ofLength, List.nil_append, List.filter_cons_of_pos (by simp)]
      rfl
  · rintro ⟨most, front⟩
    obtain ⟨rest, found⟩ := List.head?_eq_some_iff.mp front
    obtain ⟨earlier, later, rfl, none_, _, _⟩ := List.filter_eq_cons_iff.mp found
    refine ⟨earlier, later, rfl, fun other member => ?_, fun other member => ?_⟩
    · have less := (name_length_le_iff _ _).mp (most other (List.mem_append_left _ member))
      have apart := none_ other member
      rw [decide_eq_true_eq, name_length_eq_iff] at apart
      rw [name_length_lt_iff]
      omega
    · exact most other (List.mem_append_right _ (List.mem_cons_of_mem _ member))

theorem foremost_same (first second : List (Route σ)) (route : Route σ)
    (same : ∀ length, ofLength length first = ofLength length second) :
    Foremost first route ↔ Foremost second route := by
  have members : ∀ other, other ∈ first ↔ other ∈ second := by
    intro other
    have front := mem_of_length other.nameLength? first other
    have back := mem_of_length other.nameLength? second other
    rw [same] at front
    simpa using front.symm.trans back
  simp only [foremost_iff, same, members]

theorem foremost_ordered (routes : List (Route σ)) (route : Route σ)
    (ordered : routes.Pairwise fun a b => b.nameLength? ≤ a.nameLength?) :
    Foremost routes route ↔ routes.head? = some route := by
  constructor
  · rintro ⟨earlier, later, rfl, shorter, _⟩
    cases earlier with
    | nil => rfl
    | cons first rest =>
        have less := (name_length_lt_iff _ _).mp (shorter first List.mem_cons_self)
        have behind := (List.pairwise_cons.mp ordered).1 route (by simp)
        rw [name_length_le_iff] at behind
        omega
  · intro front
    obtain ⟨rest, rfl⟩ := List.head?_eq_some_iff.mp front
    exact ⟨[], rest, rfl, List.forall_mem_nil _, (List.pairwise_cons.mp ordered).1⟩

theorem ordered_unique (first second : List (Route σ))
    (ordered : first.Pairwise fun a b => b.nameLength? ≤ a.nameLength?)
    (sorted : second.Pairwise fun a b => b.nameLength? ≤ a.nameLength?)
    (same : ∀ length, ofLength length first = ofLength length second) : first = second := by
  induction first generalizing second with
  | nil =>
      cases second with
      | nil => rfl
      | cons route rest =>
          have found : route ∈ ofLength route.nameLength? (route :: rest) :=
            (mem_of_length _ _ route).mpr ⟨List.mem_cons_self, rfl⟩
          rw [← same] at found
          cases found
  | cons route rest ih =>
      have front := (foremost_ordered _ route ordered).mpr rfl
      rw [foremost_same _ _ route same, foremost_ordered _ route sorted] at front
      obtain ⟨others, rfl⟩ := List.head?_eq_some_iff.mp front
      have behind : ∀ length, ofLength length rest = ofLength length others := by
        intro length
        have whole : ofLength length ([route] ++ rest) = ofLength length ([route] ++ others) := same length
        rw [of_length_append, of_length_append] at whole
        exact List.append_cancel_left whole
      rw [ih others (List.pairwise_cons.mp ordered).2 (List.pairwise_cons.mp sorted).2 behind]

theorem ranked_unique (registered first second : List (Route σ)) (ranked : Ranked registered first)
    (order : Ranked registered second) : first = second := by
  refine ordered_unique first second ranked.longestFirst order.longestFirst fun length => ?_
  rw [ranked.inTurn, order.inTurn]

theorem ranked_sorted (routes : List (Route σ)) : Ranked routes (routes.mergeSort notShorter) := by
  have ordered := List.pairwise_mergeSort not_shorter_trans not_shorter_total routes
  have perm := List.mergeSort_perm routes notShorter
  refine ⟨perm, ordered.imp (not_shorter_iff _ _).mp, fun length => ?_⟩
  -- The routes of one length are in order already, so a stable sort leaves them in their turn.
  have level : (ofLength length routes).Pairwise fun a b => a.notShorter b := by
    refine List.pairwise_of_forall_mem_list fun a first b second => ?_
    have equal := ((mem_of_length _ _ a).mp first).2.trans ((mem_of_length _ _ b).mp second).2.symm
    rw [name_length_eq_iff] at equal
    rw [not_shorter_iff, name_length_le_iff]
    exact Nat.le_of_eq equal.symm
  have turn := (List.sublist_mergeSort not_shorter_trans not_shorter_total level List.filter_sublist).filter
    (·.nameLength? = length)
  rw [ofLength, List.filter_filter] at turn
  simp only [Bool.and_self] at turn
  exact (turn.eq_of_length (perm.symm.filter _).length_eq).symm

theorem insert_into_sorts (route : Route σ) (routes : List (Route σ))
    (ordered : routes.Pairwise fun a b => b.nameLength? ≤ a.nameLength?) :
    route.insertInto routes = (routes ++ [route]).mergeSort notShorter := by
  have placed := ranked_insert routes routes route ⟨List.Perm.refl _, ordered, fun _ => rfl⟩
  exact ranked_unique _ _ _ placed (ranked_sorted _)

theorem register_all_sorts (routes : List (Route σ)) :
    (RouteTable.registerAll {} routes).routes = routes.mergeSort notShorter :=
  ranked_unique routes _ _ (registrations_ranked routes) (ranked_sorted routes)

theorem ranked_filter (registered ranked : List (Route σ)) (keep : Route σ → Bool)
    (order : Ranked registered ranked) : Ranked (registered.filter keep) (ranked.filter keep) := by
  refine ⟨order.all.filter keep, order.longestFirst.filter keep, fun length => ?_⟩
  have same := congrArg (List.filter keep) (order.inTurn length)
  simpa only [ofLength, List.filter_filter, Bool.and_comm] using same

theorem find_iff (table : RouteTable σ) (registered : List (Route σ)) (request : Request) (route : Route σ)
    (order : Ranked registered table.routes) :
    table.find? request = some route ↔ Foremost (registered.filter (·.accepts request)) route := by
  have taken := ranked_filter registered table.routes (·.accepts request) order
  rw [RouteTable.find?, ← List.head?_filter, ← foremost_ordered _ _ taken.longestFirst]
  exact foremost_same _ _ route taken.inTurn

theorem longest_name_first (routes : List (Route σ)) :
    Ranked routes (RouteTable.registerAll {} routes).routes ∧
      (∀ request route, (RouteTable.registerAll {} routes).find? request = some route ↔
        Foremost (routes.filter (·.accepts request)) route) ∧
      (∀ request, (RouteTable.registerAll {} routes).find? request = none ↔
        ∀ route ∈ routes, route.accepts request = false) ∧
      ∀ others : List (Route σ), (∀ length, ofLength length others = ofLength length routes) →
        RouteTable.registerAll {} others = RouteTable.registerAll {} routes := by
  have ranked := registrations_ranked routes
  refine ⟨ranked, fun request route => find_iff _ routes request route ranked, ?_, ?_⟩
  · intro request
    rw [RouteTable.find?, List.find?_eq_none]
    simp only [ranked.all.mem_iff, Bool.not_eq_true]
  · intro others same
    have order : (RouteTable.registerAll {} others).routes = (RouteTable.registerAll {} routes).routes := by
      have order := registrations_ranked others
      refine ordered_unique _ _ order.longestFirst ranked.longestFirst fun length => ?_
      rw [order.inTurn, same, ranked.inTurn]
    have fallBack := (register_all_not_found {} others).trans (register_all_not_found {} routes).symm
    generalize RouteTable.registerAll {} others = first at order fallBack ⊢
    generalize RouteTable.registerAll {} routes = second at order fallBack ⊢
    cases first
    cases second
    rw [RouteTable.mk.injEq]
    exact ⟨order, fallBack⟩

def bindRoute (label : String) (nameSuffix : Option String) : Route Unit :=
  { operation := .bind, handler := fun _ _ _ => .done (), backend := .null Unit, nameSuffix, label }

def bindRoutes : List (Route Unit) :=
  [bindRoute "any" none, bindRoute "country" (some "dc=org"), bindRoute "company" (some "dc=a,dc=org")]

theorem bind_routes_longest_first :
    (∀ length, ofLength length bindRoutes.reverse = ofLength length bindRoutes) ∧
      RouteTable.registerAll {} bindRoutes.reverse = RouteTable.registerAll {} bindRoutes ∧
      (RouteTable.registerAll {} bindRoutes).find? (.bind "cn=b,dc=a,dc=org" "simple" []) =
        some (bindRoute "company" (some "dc=a,dc=org")) := by
  obtain ⟨_, finds, _, unordered⟩ := longest_name_first bindRoutes
  have agree : ∀ length, ofLength length bindRoutes.reverse = ofLength length bindRoutes := by
    intro length
    by_cases any : none = length
    · subst any
      rfl
    · by_cases country : some 6 = length
      · subst country
        rfl
      · by_cases company : some 11 = length
        · subst company
          rfl
        · have apart : ∀ route ∈ bindRoutes, route.nameLength? ≠ length := by
            simp only [bindRoutes, List.forall_mem_cons]
            exact ⟨any, country, company, List.forall_mem_nil _⟩
          rw [of_length_nil length _ apart, of_length_nil length _ fun route member =>
            apart route (List.mem_reverse.mp member)]
  refine ⟨agree, unordered _ agree, (finds _ _).mpr ⟨bindRoutes.take 2, [], rfl, ?_, List.forall_mem_nil _⟩⟩
  simp only [bindRoutes, List.take, List.forall_mem_cons, name_length_lt_iff]
  exact ⟨by decide, by decide, List.forall_mem_nil _⟩

end DirectoryServer
