/-
  The pages of a list.

  A list is shown page by page.  All pages are cut from one list of the rows
  that are asked for, so that they neither repeat a row nor leave one out, and a
  page says that another one follows as long as there are rows left.

  * `Listing`: what a list asks for, whichever page of it is shown.
  * `Listing.Asks`: the records that it is about.
  * `Listing.Shows`: a page shows its part of the rows.
  * `Listing.Followed`: the pages that are read by asking for the next one as
    long as there is one.
  * `Listing.pages_partition`: pages show their parts, and together all rows.
-/
import CaseDesk.Proofs.Order

namespace CaseDesk

/-! ## Counting -/

namespace Table

variable {ρ : Type} [Record ρ]

/-- Where all rows can be counted, cutting large counts does not show. -/
theorem listWhere_eq (t : Table ρ) (scope : Option Int) (query : ListQuery) (keep : ρ → Bool)
    {found : List (Row ρ)} (hfound : t.matching scope query keep = found)
    (hcount : found.length ≤ ListQuery.maxCount) :
    t.listWhere scope query keep =
      { page := query.page
        next := decide ((query.page - 1) * query.size + query.size < found.length)
        items := ((found.drop ((query.page - 1) * query.size)).take query.size).map fun row =>
          { row with value := Record.project query.fields row.value } } := by
  subst hfound
  generalize hbefore : (query.page - 1) * query.size = before
  have hoffset : query.offset = min before ListQuery.maxCount := by rw [← hbefore]; rfl
  have hitems : ((t.matching scope query keep).drop query.offset).take query.size =
      ((t.matching scope query keep).drop before).take query.size := by
    rw [hoffset]
    rcases Nat.le_total before ListQuery.maxCount with hle | hle
    · rw [Nat.min_eq_left hle]
    · rw [Nat.min_eq_right hle, List.drop_eq_nil_of_le hcount,
        List.drop_eq_nil_of_le (Nat.le_trans hcount hle)]
  have hnext : min (query.offset +
        (((t.matching scope query keep).drop before).take query.size).length)
      ListQuery.maxCount < (t.matching scope query keep).length ↔
        before + query.size < (t.matching scope query keep).length := by
    rw [List.length_take, List.length_drop, hoffset]
    omega
  simp only [listWhere, hitems, hnext]

end Table

/-! ## Listings -/

/-- A search text has no pattern just if it is blank. -/
theorem Pattern.parse_eq_none {raw : String} : Pattern.parse raw = .ok none ↔ Text.trim raw = "" := by
  have hblank : Text.trim raw = "" ↔ Text.trimChars raw.toList = [] :=
    ⟨fun h => String.ofList_injective h, fun h => by rw [Text.trim, h]⟩
  rw [hblank, Pattern.parse]
  split_ifs with hempty <;> simp_all

/-- What a list asks for, whichever page of it is shown. -/
structure Listing (ρ : Type) where
  scope : Option Int
  ids : List Int
  q : String
  sort : String
  fields : List String
  keep : ρ → Bool
  size : Int
  limits : PageLimits

namespace Listing

variable {ρ : Type} [Record ρ] (l : Listing ρ)

/-- The query for a page. -/
def query (page : Int) : Except StoreError ListQuery := do
  let query ← (ListQuery.plain page l.size l.limits).searching l.q
  return ((query.sortedBy l.sort).onto l.fields).among l.ids

/-- A page of the list. -/
def page (t : Table ρ) (page : Int) : Except StoreError (Page (Row ρ)) := do
  return t.listWhere l.scope (← l.query page) l.keep

/-- The records that a list is about. -/
structure Asks (r : ρ) : Prop where
  scope : ∀ parent, l.scope = some parent → Record.scope r = some parent
  id : l.ids = [] ∨ Record.idOf r ∈ l.ids
  text : Text.trim l.q = "" ∨ ∃ pattern, Pattern.parse l.q = .ok (some pattern) ∧
    pattern.accepts (Record.searchText r) = true
  keep : l.keep r = true

/-- How many rows a page has at most. -/
def pageSize : Nat :=
  if 0 < l.size then min l.size.toNat l.limits.maxSize else l.limits.defaultSize

/-- A row as the list shows it. -/
def projected (row : Row ρ) : Row ρ :=
  { row with value := Record.project (fieldNames l.fields) row.value }

/-- The page with a number shows its part of the rows found, and whether there are more. -/
structure Shows (found : List (Row ρ)) (n : Nat) (shown : Page (Row ρ)) : Prop where
  number : shown.page = n
  items : ∀ i, shown.items[i]? =
    if i < l.pageSize then (found[(n - 1) * l.pageSize + i]?).map l.projected else none
  next : shown.next = true ↔ n * l.pageSize < found.length

/-- The largest number of a page. -/
def lastPage : Nat := 2147483647

/-- The pages that are read from one on by asking for the next one as long as there is one. -/
inductive Followed (t : Table ρ) : Nat → List (Page (Row ρ)) → Prop
  | last {number : Nat} {page : Page (Row ρ)} (hpage : l.page t number = .ok page)
      (hnext : page.next = false) : Followed t number [page]
  | next {number : Nat} {page : Page (Row ρ)} {pages : List (Page (Row ρ))}
      (hpage : l.page t number = .ok page) (hnext : page.next = true) (hlast : number < lastPage)
      (hrest : Followed t (number + 1) pages) : Followed t number (page :: pages)

/-- The query for a page, where the search text stands for a pattern. -/
def queryOf (search : Option Pattern) (page : Int) : ListQuery :=
  ((({ ListQuery.plain page l.size l.limits with search }).sortedBy l.sort).onto l.fields).among
    l.ids

variable {l} {t : Table ρ} {search : Option Pattern}

theorem page_eq (hq : Pattern.parse l.q = .ok search) (t : Table ρ) (page : Int) :
    l.page t page = .ok (t.listWhere l.scope (l.queryOf search page) l.keep) := by
  simp only [Listing.page, query, ListQuery.searching, hq]
  rfl

omit [Record ρ] in
theorem acceptsText_iff (hq : Pattern.parse l.q = .ok search) (page : Int) (text : String) :
    (l.queryOf search page).acceptsText text = true ↔
      Text.trim l.q = "" ∨ ∃ pattern, Pattern.parse l.q = .ok (some pattern) ∧
        pattern.accepts text = true := by
  have hsearch : (l.queryOf search page).search = search := rfl
  rw [← Pattern.parse_eq_none, hq, ListQuery.acceptsText, hsearch]
  cases search with
  | none => simp
  | some pattern => simp

theorem wanted_iff (hq : Pattern.parse l.q = .ok search) (page : Int) (r : ρ) :
    Table.wanted l.scope (l.queryOf search page) l.keep r = true ↔ l.Asks r := by
  have hscope : l.scope.all (Table.inScope · r) = true ↔
      ∀ parent, l.scope = some parent → Record.scope r = some parent := by
    cases l.scope <;> simp [Table.inScope_iff]
  have hid : (l.queryOf search page).acceptsId (Record.idOf r) = true ↔
      l.ids = [] ∨ Record.idOf r ∈ l.ids := by
    simp [ListQuery.acceptsId, queryOf, ListQuery.among]
  rw [Table.wanted, Bool.and_eq_true, Bool.and_eq_true, Bool.and_eq_true, hscope, hid,
    acceptsText_iff hq]
  constructor
  · rintro ⟨⟨⟨hscope, hid⟩, htext⟩, hkeep⟩
    exact ⟨hscope, hid, htext, hkeep⟩
  · rintro ⟨hscope, hid, htext, hkeep⟩
    exact ⟨⟨⟨hscope, hid⟩, htext⟩, hkeep⟩

omit [Record ρ] in
theorem pageSize_bounds (l : Listing ρ) : 1 ≤ l.pageSize ∧ l.pageSize ≤ l.limits.maxSize := by
  have hdefault := l.limits.default_pos
  have hmax := l.limits.default_le_max
  unfold pageSize
  split <;> omega

omit [Record ρ] in
/-- The end of a page, counted from its start. -/
theorem end_eq (l : Listing ρ) {n : Nat} (hn : 1 ≤ n) :
    n * l.pageSize = (n - 1) * l.pageSize + l.pageSize := by
  rw [← Nat.succ_mul, Nat.succ_eq_add_one, Nat.sub_add_cancel hn]

/-- All pages are cut from the same rows. -/
theorem shows_listWhere (hcount : t.rows.length ≤ ListQuery.maxCount) (page : Int) :
    l.Shows (t.matching l.scope (l.queryOf search 1) l.keep) (if 0 < page then page.toNat else 1)
      (t.listWhere l.scope (l.queryOf search page) l.keep) := by
  generalize hn : (if 0 < page then page.toNat else 1) = n
  have hn' : (l.queryOf search page).page = n := hn
  have hpos : 1 ≤ n := by
    split_ifs at hn <;> omega
  have hsize : (l.queryOf search page).size = l.pageSize := rfl
  have hshort : (t.matching l.scope (l.queryOf search 1) l.keep).length ≤ ListQuery.maxCount := by
    rw [(Table.matching_perm t l.scope (l.queryOf search 1) l.keep).length_eq]
    exact Nat.le_trans (List.length_filter_le _ _) hcount
  rw [Table.listWhere_eq t l.scope (l.queryOf search page) l.keep rfl hshort, hn', hsize]
  refine ⟨rfl, fun i => ?_, ?_⟩
  · rw [List.getElem?_map, List.getElem?_take, List.getElem?_drop]
    split_ifs <;> rfl
  · rw [decide_eq_true_iff, l.end_eq hpos]
    rfl

theorem Shows.items_eq {found : List (Row ρ)} {n : Nat} {shown : Page (Row ρ)}
    (h : l.Shows found n shown) :
    shown.items = ((found.drop ((n - 1) * l.pageSize)).take l.pageSize).map l.projected := by
  refine List.ext_getElem? fun i => ?_
  rw [h.items, List.getElem?_map, List.getElem?_take, List.getElem?_drop]
  split_ifs <;> rfl

section
variable {found : List (Row ρ)}
  (hpages : ∀ n : Nat, 1 ≤ n → ∃ shown, l.page t n = .ok shown ∧ l.Shows found n shown)
include hpages

/-- What is read from a page on are the rows from there on. -/
theorem Followed.items_eq {n : Nat} {pages : List (Page (Row ρ))} (h : l.Followed t n pages)
    (hn : 1 ≤ n) :
    pages.flatMap (·.items) = (found.drop ((n - 1) * l.pageSize)).map l.projected := by
  induction h with
  | @last n page hpage hnext =>
    obtain ⟨_, hpage', hshows⟩ := hpages n hn
    cases hpage.symm.trans hpage'
    -- nothing is left after the last page
    have hrest : (found.drop ((n - 1) * l.pageSize)).length ≤ l.pageSize := by
      have hend := mt hshows.next.2 (Bool.eq_false_iff.1 hnext)
      rw [l.end_eq hn] at hend
      rw [List.length_drop]
      omega
    rw [List.flatMap_singleton, hshows.items_eq, List.take_of_length_le hrest]
  | @next n page pages hpage hnext _ _ ih =>
    obtain ⟨_, hpage', hshows⟩ := hpages n hn
    cases hpage.symm.trans hpage'
    have hrest : found.drop (n * l.pageSize) =
        (found.drop ((n - 1) * l.pageSize)).drop l.pageSize := by
      rw [List.drop_drop, l.end_eq hn]
    rw [List.flatMap_cons, ih (Nat.le_add_left 1 n), hshows.items_eq, Nat.add_sub_cancel, hrest,
      ← List.map_append, List.take_append_drop]

/-- Reading ends if there are not too many rows for the numbers of pages. -/
theorem exists_followed (left : Nat) {n : Nat} (hn : 1 ≤ n) (hlast : n + left ≤ lastPage)
    (hfound : found.length ≤ (n + left) * l.pageSize) : ∃ pages, l.Followed t n pages := by
  induction left generalizing n with
  | zero =>
    obtain ⟨shown, hpage, hshows⟩ := hpages n hn
    have hnext : shown.next = false := by
      rw [Bool.eq_false_iff, ne_eq, hshows.next]
      exact Nat.not_lt.2 hfound
    exact ⟨_, .last hpage hnext⟩
  | succ left ih =>
    obtain ⟨shown, hpage, hshows⟩ := hpages n hn
    cases hnext : shown.next with
    | false => exact ⟨_, .last hpage hnext⟩
    | true =>
      rw [← Nat.add_assoc, Nat.add_right_comm] at hlast hfound
      obtain ⟨pages, hrest⟩ := ih (Nat.le_add_left 1 n) hlast hfound
      exact ⟨_, .next hpage hnext (by omega) hrest⟩

end

open Classical in
/-- **Pages partition what is found.**  Where the search text can be read and the rows can be
    counted, all pages of a list are cut from one arrangement of the rows that it asks for, in the
    order of its sort terms: each page exists, shows its part, and says whether there are rows after
    it.  Asking for the next page from the first one on as long as there is one shows each row
    once, and comes to an end where the rows do not need more pages than there are numbers. -/
theorem pages_partition (l : Listing ρ) {search : Option Pattern}
    (hq : Pattern.parse l.q = .ok search) (t : Table ρ)
    (hcount : t.rows.length ≤ ListQuery.maxCount) :
    (1 ≤ l.pageSize ∧ l.pageSize ≤ l.limits.maxSize) ∧
    ∃ found : List (Row ρ),
      found.Perm (t.rows.filter fun row => l.Asks row.value) ∧
      (t.Keyed → found.Pairwise fun a b => Before (SortTerm.parseList l.sort) a.value b.value) ∧
      (∀ page : Int, ∃ shown, l.page t page = .ok shown ∧
        l.Shows found (if 0 < page then page.toNat else 1) shown) ∧
      (∀ pages, l.Followed t 1 pages → pages.flatMap (·.items) = found.map l.projected) ∧
      (found.length ≤ l.pageSize * lastPage → ∃ pages, l.Followed t 1 pages) := by
  have hshows (page : Int) : ∃ shown, l.page t page = .ok shown ∧
      l.Shows (t.matching l.scope (l.queryOf search 1) l.keep)
        (if 0 < page then page.toNat else 1) shown :=
    ⟨_, page_eq hq t page, shows_listWhere hcount page⟩
  have hpages : ∀ n : Nat, 1 ≤ n → ∃ shown, l.page t n = .ok shown ∧
      l.Shows (t.matching l.scope (l.queryOf search 1) l.keep) n shown := by
    intro n hn
    have h := hshows n
    rwa [if_pos (by omega), Int.toNat_natCast] at h
  refine ⟨l.pageSize_bounds, t.matching l.scope (l.queryOf search 1) l.keep, ?_,
    fun hk => Table.pairwise_matching hk l.scope (l.queryOf search 1) l.keep, hshows,
    fun pages h => ?_, fun h => ?_⟩
  · refine (Table.matching_perm t l.scope (l.queryOf search 1) l.keep).trans (.of_eq ?_)
    refine List.filter_congr fun row _ => ?_
    rw [Bool.eq_iff_iff, wanted_iff hq, decide_eq_true_iff]
  · have hitems := Followed.items_eq hpages h (Nat.le_refl 1)
    rwa [Nat.sub_self, Nat.zero_mul, List.drop_zero] at hitems
  · have hlast : 1 + (lastPage - 1) = lastPage := rfl
    refine exists_followed hpages (lastPage - 1) (Nat.le_refl 1) (Nat.le_of_eq hlast) ?_
    rwa [hlast, Nat.mul_comm]

end Listing

/-- Four statuses, of which three are about opening. -/
def openStatuses : Run :=
  [.bySuperuser (.statuses (.create ⟨(), some ⟨"open", ""⟩⟩)),
    .bySuperuser (.statuses (.create ⟨(), some ⟨"closed", ""⟩⟩)),
    .bySuperuser (.statuses (.create ⟨(), some ⟨"reopened", ""⟩⟩)),
    .bySuperuser (.statuses (.create ⟨(), some ⟨"opening", ""⟩⟩))]

/-- The statuses about opening, two on a page, from the last name to the first. -/
def opening : Listing CaseStatus where
  scope := none
  ids := []
  q := " Open"
  sort := "-name"
  fields := ["name"]
  keep _ := true
  size := 2
  limits := .standard

theorem opening_pages :
    Pattern.parse opening.q = .ok (some (.contains ['O', 'p', 'e', 'n'])) ∧
      ∃ (found : List (Row CaseStatus)) (pages : List (Page (Row CaseStatus))),
        found.Pairwise (fun a b => Before [⟨"name", .desc⟩] a.value b.value) ∧
        (∃ second, opening.page (openStatuses.before 4).statuses 2 = .ok second ∧
          opening.Shows found 2 second) ∧
        opening.Followed (openStatuses.before 4).statuses 1 pages ∧
        pages.flatMap (·.items) = found.map opening.projected := by
  have hq : Pattern.parse opening.q = .ok (some (.contains ['O', 'p', 'e', 'n'])) := by rfl
  have hrows : (openStatuses.before 4).statuses.rows.length = 4 := by decide +kernel
  have hkeyed := (openStatuses.reachable_before 4).keyed.statuses
  obtain ⟨-, found, hperm, hsorted, hshown, hread, hends⟩ :=
    Listing.pages_partition opening hq (openStatuses.before 4).statuses (by rw [hrows]; decide)
  have hfew : found.length ≤ 4 := by
    rw [hperm.length_eq, ← hrows]
    exact List.length_filter_le _ _
  obtain ⟨pages, hpages⟩ := hends (Nat.le_trans hfew (by decide))
  exact ⟨hq, found, pages, hsorted hkeyed, hshown 2, hpages, hread pages hpages⟩

end CaseDesk
