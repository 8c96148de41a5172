import LatticeLtc.Model

/-! # Route overrides

`parseRouteOverrides` splits a route specification at `,`, skips the empty segments and reads every
other segment with `parseRoute`: split at `:`, the port is `uint16(Atoi(routeArr[0]))` and the
hostname prefix is `routeArr[1]`, the text between the first and the second `:`. The first malformed
segment ends the parse with the `MalformedRoute` error and a nil list.

* `parseRoute_eq`: what a segment gives;
* `parseRoutesLoop_eq`: the loop reads the non-empty segments one after the other;
* `parseRouteOverrides_segments`: one override per non-empty segment, in order, or an error and no
  list;
* `parseRouteOverrides_idempotent`: parsing the serialized form of parsed overrides gives them back. -/

namespace LatticeLtc.Routes

open LatticeLtc.Go.Strings LatticeLtc.Go.Ints LatticeLtc.Model

/-- The body of the loop of `parseRouteOverrides` on a non-empty segment; `none` is the
`MalformedRoute` error. -/
def parseRoute (route : Str) : Option RouteOverride :=
  let routeArr := split ':' route
  match atoi (routeArr.getD 0 []), routeArr[1]? with
  | some maybePort, some hostnamePrefix => some ⟨hostnamePrefix, toUint16 maybePort⟩
  | _, _ => none

/-- The loop of `parseRouteOverrides` over the segments, `acc` the overrides appended so far. -/
def parseRoutesLoop : List Str → List RouteOverride → List RouteOverride × Option Str
  | [], acc => (acc, none)
  | route :: routes, acc =>
    if route = [] then parseRoutesLoop routes acc
    else match parseRoute route with
      | none => ([], some malformedRouteErrorMessage)
      | some r => parseRoutesLoop routes (acc ++ [r])

/-- `parseRouteOverrides(routes)`: the overrides, and the error (`none` for nil). -/
def parseRouteOverrides (routes : Str) : List RouteOverride × Option Str :=
  parseRoutesLoop (split ',' routes) []

example : parseRouteOverrides "80:web,8080:api".toList =
    ([⟨"web".toList, 80⟩, ⟨"api".toList, 8080⟩], none) := by decide

/-- The non-empty `,`-separated segments of a route specification. -/
def routeSegments (routes : Str) : List Str := (split ',' routes).filter (· ≠ [])

/-! ### One segment -/

theorem parseRoute_eq (route : Str) :
    parseRoute route = if ':' ∈ route then
      (atoi (before ':' route)).map fun v => ⟨before ':' (after ':' route), toUint16 v⟩
    else none := by
  simp only [parseRoute, split_getD_zero, split_getElem?_one]
  split_ifs <;> cases atoi (before ':' route) <;> rfl

theorem parseRoute_eq_some {route : Str} {r : RouteOverride} :
    parseRoute route = some r ↔ ':' ∈ route ∧
      ∃ v, atoi (before ':' route) = some v ∧ r = ⟨before ':' (after ':' route), toUint16 v⟩ := by
  rw [parseRoute_eq]
  split_ifs with h
  · cases atoi (before ':' route) <;> simp [h, eq_comm]
  · simp [h]

/-- The hostname prefix is one of the `:`-pieces of the segment. -/
theorem hostnamePrefix_mem_split {route : Str} {r : RouteOverride} (h : parseRoute route = some r) :
    r.hostnamePrefix ∈ split ':' route := by
  obtain ⟨hc, v, -, rfl⟩ := parseRoute_eq_some.mp h
  rw [split_eq, if_pos hc, split_eq]
  simp

/-! ### The loop -/

/-- **The loop** reads the non-empty segments in order; it fails on the first malformed one. -/
theorem parseRoutesLoop_eq (routes : List Str) (acc : List RouteOverride) :
    parseRoutesLoop routes acc =
      if ∀ route ∈ routes.filter (· ≠ []), parseRoute route ≠ none then
        (acc ++ (routes.filter (· ≠ [])).filterMap parseRoute, none)
      else ([], some malformedRouteErrorMessage) := by
  induction routes generalizing acc with
  | nil => simp [parseRoutesLoop]
  | cons route routes ih =>
    by_cases h : route = []
    · simp [parseRoutesLoop, h, ih]
    · cases hr : parseRoute route <;> simp [parseRoutesLoop, h, hr, ih]

theorem parseRouteOverrides_eq (s : Str) :
    parseRouteOverrides s =
      if ∀ seg ∈ routeSegments s, parseRoute seg ≠ none then
        ((routeSegments s).filterMap parseRoute, none)
      else ([], some malformedRouteErrorMessage) := by
  rw [parseRouteOverrides, parseRoutesLoop_eq]; rfl

/-- A parse without error reads every non-empty segment, each of which has a `:`. -/
theorem parseRouteOverrides_eq_ok {s : Str} {L : List RouteOverride} (h : parseRouteOverrides s = (L, none)) :
    (∀ seg ∈ routeSegments s, ':' ∈ seg) ∧
      List.Forall₂ (fun seg r => parseRoute seg = some r) (routeSegments s) L := by
  rw [parseRouteOverrides_eq] at h
  split_ifs at h with hall
  · obtain ⟨rfl, -⟩ := Prod.mk.inj h
    exact ⟨fun seg hs => (by simpa [parseRoute_eq] using hall seg hs : _ ∧ _).1, forall₂_filterMap hall⟩
  · cases h

theorem parseRouteOverrides_port_wraps :
    parseRouteOverrides "70000:web".toList = ([⟨"web".toList, 4464⟩], none) ∧
      parseRouteOverrides "-1:web".toList = ([⟨"web".toList, 65535⟩], none) := by decide

/-- The prefixes parsed hold neither `,` nor `:`. -/
theorem hostnamePrefix_clean {s : Str} {L : List RouteOverride} (h : parseRouteOverrides s = (L, none)) :
    ∀ r ∈ L, ',' ∉ r.hostnamePrefix ∧ ':' ∉ r.hostnamePrefix := by
  intro r hr
  rw [parseRouteOverrides_eq] at h
  split_ifs at h
  · obtain ⟨rfl, -⟩ := Prod.mk.inj h
    obtain ⟨seg, hseg, hp⟩ := List.mem_filterMap.mp hr
    have hmem := hostnamePrefix_mem_split hp
    have hs : seg ∈ split ',' s := (List.mem_filter.mp hseg).1
    exact ⟨fun hc => not_mem_of_mem_split ',' hs (subset_of_mem_split ':' hmem hc),
      not_mem_of_mem_split ':' hmem⟩
  · cases h

/-! ### Serializing -/

/-- An override written `PORT:HOSTNAME_PREFIX`, the port by `strconv.Itoa(int(r.Port))`. -/
def routeText (r : RouteOverride) : Str := itoa r.port.toNat ++ ':' :: r.hostnamePrefix

/-- The serialized form of overrides: their texts joined with `,`. -/
def serialize (L : List RouteOverride) : Str := join (L.map routeText) [',']

theorem parseRoute_routeText {r : RouteOverride} (h : ':' ∉ r.hostnamePrefix) :
    parseRoute (routeText r) = some r := by
  have hd : ':' ∉ itoa r.port.toNat := fun hc => by simpa using isDigit_of_mem_itoa hc
  have hr := toNat_uint16_lt r.port
  simp [parseRoute, routeText, split_append_cons ':' hd, split_of_not_mem ':' h,
    atoi_itoa (v := r.port.toNat) (by omega) (by omega), toUint16_toNat]

theorem parseRouteOverrides_serialize {L : List RouteOverride}
    (h : ∀ r ∈ L, ',' ∉ r.hostnamePrefix ∧ ':' ∉ r.hostnamePrefix) :
    parseRouteOverrides (serialize L) = (L, none) := by
  rcases eq_or_ne L [] with rfl | hne
  · rfl
  have hpiece : ∀ p ∈ L.map routeText, ',' ∉ p := by
    simp only [List.mem_map, forall_exists_index, and_imp, forall_apply_eq_imp_iff₂]
    intro r hr hc
    rcases List.mem_append.mp hc with hc | hc
    · simpa using isDigit_of_mem_itoa hc
    · simp [(h r hr).1] at hc
  have hseg : routeSegments (serialize L) = L.map routeText := by
    rw [routeSegments, serialize, join, split_intercalate ',' (by simpa using hne) hpiece]
    exact List.filter_eq_self.mpr fun p hp => by
      obtain ⟨r, -, rfl⟩ := List.mem_map.mp hp; simp [routeText]
  have hparse : ∀ r ∈ L, parseRoute (routeText r) = some r := fun r hr => parseRoute_routeText (h r hr).2
  have hall : ∀ p ∈ L.map routeText, parseRoute p ≠ none := fun p hp => by
    obtain ⟨r, hr, rfl⟩ := List.mem_map.mp hp; simp [hparse r hr]
  rw [parseRouteOverrides_eq, hseg, if_pos hall, List.filterMap_map,
    List.filterMap_congr (g := some) (by simpa using hparse), List.filterMap_some]

/-- **Parsing the serialized form of parsed overrides gives them back**, and so does parsing the
serialized form of any overrides whose prefixes hold neither `,` nor `:`. -/
theorem parseRouteOverrides_idempotent :
    (∀ s L, parseRouteOverrides s = (L, none) → parseRouteOverrides (serialize L) = (L, none)) ∧
      ∀ L : List RouteOverride, (∀ r ∈ L, ',' ∉ r.hostnamePrefix ∧ ':' ∉ r.hostnamePrefix) →
        parseRouteOverrides (serialize L) = (L, none) :=
  ⟨fun _ _ h => parseRouteOverrides_serialize (hostnamePrefix_clean h),
    fun _ => parseRouteOverrides_serialize⟩

theorem parseRouteOverrides_idempotent_web :
    parseRouteOverrides (serialize [⟨"web".toList, 80⟩]) = ([⟨"web".toList, 80⟩], none) :=
  parseRouteOverrides_idempotent.1 "80:web".toList _ (by decide)

end LatticeLtc.Routes
