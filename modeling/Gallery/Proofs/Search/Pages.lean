import Gallery.Proofs.Search.Correctness
import Gallery.Proofs.Search.Slices

namespace Gallery
namespace Search

open Database (oneArchive)

/-!
# Pages of a listing

All pages of a search are cut out of one listing, since nothing before the cut
looks at the page.  What remains is arithmetic: the pages meet without a gap and
without an overlap, the last one may be short, and the cut-off at the largest
64-bit number is out of reach of lists that are shorter than that.
-/

/-! ## Slices of a list -/

/-- The number of pages of a list with the given number of elements. -/
def pageCount (total limit : Nat) : Nat :=
  (total + limit - 1) / limit

theorem le_pageCount_mul (total : Nat) {limit : Nat} (positive : 0 < limit) :
    total ≤ pageCount total limit * limit := by
  have quotient := Nat.lt_mul_div_succ (total + limit - 1) positive
  rw [pageCount, Nat.mul_comm]
  rw [Nat.mul_add, Nat.mul_one] at quotient
  omega

theorem mul_lt_of_lt_pageCount {total limit index : Nat} (positive : 0 < limit)
    (inside : index < pageCount total limit) : index * limit < total := by
  have enough : (index + 1) * limit ≤ total + limit - 1 := (Nat.le_div_iff_mul_le positive).mp inside
  rw [Nat.add_mul, Nat.one_mul] at enough
  omega

theorem flatMap_slices {α : Type} (items : List α) (limit count : Nat) :
    (List.range count).flatMap (fun index => (items.drop (index * limit)).take limit) =
      items.take (count * limit) := by
  induction count with
  | zero => rw [Nat.zero_mul, List.take_zero, List.range_zero, List.flatMap_nil]
  | succ count inductionHypothesis =>
      rw [List.range_succ, List.flatMap_append, inductionHypothesis, List.flatMap_singleton,
        Nat.add_mul, Nat.one_mul, List.take_add]

section Paginate

variable {α : Type} {items : List α} {limit : UInt64}

/-- A page within the list is the slice at its place. -/
theorem paginate_of_lt (short : items.length < UInt64.size) (nonzero : limit ≠ 0) {index : Nat}
    (inside : index < pageCount items.length limit.toNat) :
    paginate items (UInt64.ofNat (index + 1)) limit =
      (items.drop (index * limit.toNat)).take limit.toNat := by
  have positive := toNat_pos_of_ne_zero nonzero
  have before := mul_lt_of_lt_pageCount positive inside
  have small : index < items.length :=
    Nat.lt_of_le_of_lt (Nat.le_mul_of_pos_right index positive) before
  have number : (UInt64.ofNat (index + 1)).toNat = index + 1 :=
    UInt64.toNat_ofNat_of_lt' (by omega)
  rw [paginate_eq_slice short nonzero, number, Nat.max_eq_left (by omega), Nat.add_sub_cancel]

/-- A page beyond the last one is empty. -/
theorem paginate_of_gt (short : items.length < UInt64.size) (nonzero : limit ≠ 0) {page : UInt64}
    (beyond : pageCount items.length limit.toNat < page.toNat) : paginate items page limit = [] := by
  have covered := le_pageCount_mul items.length (toNat_pos_of_ne_zero nonzero)
  have further := Nat.mul_le_mul_right limit.toNat (Nat.le_sub_one_of_lt beyond)
  rw [paginate_eq_slice short nonzero, Nat.max_eq_left (by omega),
    List.drop_eq_nil_of_le (by omega), List.take_nil]

/-- The pages of a list together are the list. -/
theorem flatMap_paginate (short : items.length < UInt64.size) (nonzero : limit ≠ 0) :
    (List.range (pageCount items.length limit.toNat)).flatMap
      (fun index => paginate items (UInt64.ofNat (index + 1)) limit) = items := by
  have covered := le_pageCount_mul items.length (toNat_pos_of_ne_zero nonzero)
  calc
    _ = (List.range (pageCount items.length limit.toNat)).flatMap
          (fun index => (items.drop (index * limit.toNat)).take limit.toNat) := by
      apply List.flatMap_congr
      intro index member
      exact paginate_of_lt short nonzero (List.mem_range.mp member)
    _ = items.take (pageCount items.length limit.toNat * limit.toNat) := flatMap_slices _ _ _
    _ = items := List.take_of_length_le covered

end Paginate

/-! ## Pages of a search -/

/-- The listing behind a search is no longer than the table of the archives. -/
theorem length_listing_le {database : Database} {site : Config.Site} {request : Request}
    {options : Options} {ids : List Int64} (present : database.missing = [])
    (listed : (Engine.mk (.sqlite database) site).listing request options = .ok ids) :
    ids.length ≤ database.store.archives.length := by
  rcases Engine.listing_cases present listed with ⟨rfl, _⟩ | ⟨rfl, _⟩
  · exact Nat.zero_le _
  · exact length_arrangedIds_le request _ database.store

/-- The pages of a search partition what the search without pages returns.  If it is
refused, so is every page.  A listing is held in memory, where no list is longer than
the 64-bit numbers reach. -/
theorem pages_partition_listing {database : Database} (site : Config.Site) (request : Request)
    (options : Options) (present : database.missing = []) (keyed : database.store.Keyed)
    (nonzero : request.limit ≠ 0) (short : database.store.archives.length < UInt64.size) :
    (∀ error, (Engine.mk (.sqlite database) site).search request
        { options with skipPagination := true } = .error error →
      ∀ page, (Engine.mk (.sqlite database) site).search { request with page := page }
        { options with skipPagination := false } = .error error) ∧
    (WithinLimits database.store request options →
      ∃ full, (Engine.mk (.sqlite database) site).search request
        { options with skipPagination := true } = .ok full) ∧
    ∀ full, (Engine.mk (.sqlite database) site).search request
        { options with skipPagination := true } = .ok full →
      full.ids.Nodup ∧
      (∀ id, id ∈ full.ids ↔ ∃ archive ∈ database.store.archives, archive.id = id ∧
        Wants request options database.store archive) ∧
      ∃ shown : UInt64 → Result,
        (∀ page, (Engine.mk (.sqlite database) site).search { request with page := page }
          { options with skipPagination := false } = .ok (shown page)) ∧
        (∀ page, (shown page).total = full.total) ∧
        (List.range (pageCount full.total request.limit.toNat)).flatMap
          (fun index => (shown (UInt64.ofNat (index + 1))).ids) = full.ids ∧
        ∀ page, pageCount full.total request.limit.toNat < page.toNat → (shown page).ids = [] := by
  have whole : (Engine.mk (.sqlite database) site).search request
      { options with skipPagination := true } =
      ((Engine.mk (.sqlite database) site).listing request options).map
        (resultOf request { options with skipPagination := true }) :=
    Engine.search_eq_listing _ _ _
  -- The listing is the same one: it looks neither at the page nor at whether there are pages.
  have paged : ∀ page, (Engine.mk (.sqlite database) site).search { request with page := page }
      { options with skipPagination := false } =
      ((Engine.mk (.sqlite database) site).listing request options).map
        (resultOf { request with page := page } { options with skipPagination := false }) :=
    fun _ => Engine.search_eq_listing _ _ _
  simp only [whole, paged]
  refine ⟨fun error refused page => ?_, fun within => ?_, fun full answered => ?_⟩
  · cases listed : (Engine.mk (.sqlite database) site).listing request options with
    | error other =>
        rw [listed] at refused
        exact refused
    | ok ids =>
        rw [listed] at refused
        cases refused
  · rcases exists_listing present within site with ⟨ids, listed⟩
    rw [listed]
    exact ⟨_, rfl⟩
  · cases listed : (Engine.mk (.sqlite database) site).listing request options with
    | error error =>
        rw [listed] at answered
        cases answered
    | ok ids =>
        rw [listed] at answered
        cases answered
        have shortIds : ids.length < UInt64.size :=
          Nat.lt_of_le_of_lt (length_listing_le present listed) short
        refine ⟨listing_nodup present keyed listed, mem_listing_iff present keyed listed,
          fun page => ⟨paginate ids page request.limit, ids.length⟩, fun page => rfl, fun page => rfl,
          flatMap_paginate shortIds nonzero, fun page beyond => paginate_of_gt shortIds nonzero beyond⟩

/-- The theorem at work on the gallery with one archive, in random order. -/
theorem oneArchive_pages :
    ∃ full, (Engine.mk (.sqlite oneArchive) {}).search
        { key := .random, seed := some "seed", limit := 1 } { skipPagination := true } = .ok full ∧
      full.ids.Nodup ∧ ∃ shown : UInt64 → Result,
        (List.range (pageCount full.total 1)).flatMap
          (fun index => (shown (UInt64.ofNat (index + 1))).ids) = full.ids := by
  have within : WithinLimits oneArchive.store
      { key := .random, seed := some "seed", limit := 1 } {} :=
    withinLimits_of_no_query rfl rfl
  have present : oneArchive.missing = [] := rfl
  have pages := pages_partition_listing {} { key := .random, seed := some "seed", limit := 1 } {}
    present Database.reachable_oneArchive.keyed (by decide) (by decide)
  rcases pages.2.1 within with ⟨full, answered⟩
  rcases pages.2.2 full answered with ⟨once, _, shown, _, _, together, _⟩
  exact ⟨full, answered, once, shown, together⟩

end Search
end Gallery
