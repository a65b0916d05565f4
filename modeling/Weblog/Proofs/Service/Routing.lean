import Weblog.Service.Route

namespace Weblog

open Weblog.Text

theorem Text.flatMap_splitAt [DecidableEq α] (a : α) (l : List α) :
    (splitAt a l).flatMap (a :: ·) = a :: l := by
  induction l with
  | nil => rfl
  | cons b rest ih =>
      rw [splitAt]
      split
      · rename_i hb
        rw [List.flatMap_cons, ih, hb]
        rfl
      · split
        · rename_i hparts
          rw [hparts] at ih
          exact nomatch ih
        · rename_i part parts hparts
          rw [hparts, List.flatMap_cons, List.cons_append] at ih
          rw [List.flatMap_cons, List.cons_append, List.cons_append, List.tail_eq_of_cons_eq ih]

namespace Route

theorem parts_of_ofParts? {parts : List String} {route : Route}
    (h : ofParts? parts = some route) : route.parts = parts := by
  simp only [ofParts?] at h
  split at h <;> (try split at h) <;> cases h <;> rfl

theorem path_of_ofPath? {path : String} {route : Route} (h : ofPath? path = some route) :
    route.path = path := by
  rw [ofPath?] at h
  split at h
  · rename_i parts hsplit
    obtain ⟨first, rest, hcs, hfirst, hrest⟩ := List.map_eq_cons_iff.mp hsplit
    have hempty : first = [] := String.ofList_injective hfirst
    have hjoin := Text.flatMap_splitAt '/' path.toList
    rw [hcs, hempty, List.flatMap_cons, List.cons_append] at hjoin
    rw [← String.toList_inj, ← List.tail_eq_of_cons_eq hjoin, Route.path, parts_of_ofParts? h,
      ← hrest, String.toList_join, List.flatMap_map, List.flatMap_map, List.nil_append]
    simp [String.toList_append]
  · exact nomatch h

end Route

end Weblog
