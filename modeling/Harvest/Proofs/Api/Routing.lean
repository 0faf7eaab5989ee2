import Harvest.Api.Route
/-!
# The service's routing table

`route` is the table the service sets up, as its router routes it. It has the behaviour the
server relies on (`route_lawful`): a method outside the standard nine is refused on every path,
and each endpoint of `/v1` is reached by its method and pattern, a batch's id being any one path
segment. The paths are told apart by their characters.
-/

namespace Harvest

namespace Api

/-- Texts whose characters differ are told apart by `==`. -/
theorem beq_false_of_toList_ne {x y : String} (h : x.toList ≠ y.toList) : (x == y) = false :=
  beq_eq_false_iff_ne.2 fun hxy => h (congrArg String.toList hxy)

/-- Inside the keyed area, `GET` on a batch's path is for that batch. -/
theorem routeKeyed_batch {id : String} (hid : IsSegment id) :
    routeKeyed "GET" ("/batches/" ++ id) = .batch id := by
  obtain ⟨hne, hslash⟩ := hid
  -- the path is none of the fixed ones, and what follows `/batches/` is the id
  have hb : ("/batches/" ++ id == "/batches") = false :=
    beq_false_of_toList_ne (by simp [String.toList_append])
  have hs : ("/batches/" ++ id == "/stats") = false :=
    beq_false_of_toList_ne (by simp [String.toList_append])
  have hp : ("/batches/" ++ id == "/proxies") = false :=
    beq_false_of_toList_ne (by simp [String.toList_append])
  have hpre : ("/batches/" ++ id).startsWith "/batches/" = true := by
    rw [String.startsWith_string_iff, String.toList_append]
    exact List.prefix_append _ _
  have hdrop : String.ofList (("/batches/" ++ id).toList.drop 9) = id := by
    simp [String.toList_append]
  have hseg : (id.isEmpty || id.contains '/') = false := by
    simpa [String.contains_char_eq, String.isEmpty_eq_false_iff.2 hne] using hslash
  simp only [routeKeyed, hb, hs, hp, hpre, hdrop, hseg]
  rfl

/-- A known method on a path under `/v1/` is routed by the keyed table, on what follows `/v1`. -/
theorem route_v1 {method : String} (hm : method ∈ knownMethods) (rest : String) :
    route method ("/v1/" ++ rest) = routeKeyed method ("/" ++ rest) := by
  have hh : ("/v1/" ++ rest == "/healthz") = false :=
    beq_false_of_toList_ne (by simp [String.toList_append])
  have hr : ("/v1/" ++ rest == "/readyz") = false :=
    beq_false_of_toList_ne (by simp [String.toList_append])
  have hmt : ("/v1/" ++ rest == "/metrics") = false :=
    beq_false_of_toList_ne (by simp [String.toList_append])
  have hv : ("/v1/" ++ rest == "/v1") = false :=
    beq_false_of_toList_ne (by simp [String.toList_append])
  have hk : keyed ("/v1/" ++ rest) = true := by
    rw [keyed, hv, Bool.false_or, String.startsWith_string_iff, String.toList_append]
    exact List.prefix_append _ _
  have hsub : String.ofList (("/v1/" ++ rest).toList.drop 3) = "/" ++ rest := by
    simp [String.toList_append]
  simp only [route, List.contains_iff_mem.2 hm, hh, hr, hmt, hk, hv, hsub]
  rfl

/-- The service's table routes as its router documents. -/
theorem route_lawful : Router.Lawful route where
  unknownMethod _ _ hm := by simp [route, hm]
  submitBatch := by decide +kernel
  batch id hid := by
    rw [show "/v1/batches/" ++ id = "/v1/" ++ ("batches/" ++ id) by
      rw [← String.append_assoc]; rfl, route_v1 (by decide), ← String.append_assoc]
    exact routeKeyed_batch hid
  listProxies := by decide +kernel
  addProxy := by decide +kernel

end Api

end Harvest
