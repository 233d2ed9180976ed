import Mathlib.Data.List.Basic
import Mathlib.Data.List.Perm.Basic
import Mathlib.Order.Lattice
import Mathlib.Order.Nat

/-!
# Paging by a cursor

A list shown in pages of `n` items, where the next page starts from the items whose key is greater
than the key of the last item shown. The items keep the order of the list, whatever their keys are.

* `walk_isSome`: following the cursor always ends.
* `walk_perm_iff`: it shows every item once exactly when the list ascends at the ends of its pages.
-/

variable {α β κ : Type*} [LinearOrder κ]

/-- The items after a cursor. -/
def itemsAfter (key : α → κ) (items : List α) : Option κ → List α
  | none => items
  | some cursor => items.filter fun item => cursor < key item

/-- The pages from a cursor on, or `none` without fuel. -/
def walk (key : α → κ) (n : ℕ) (items : List α) : ℕ → Option κ → Option (List (List α))
  | 0, _ => none
  | fuel + 1, cursor =>
      let window := itemsAfter key items cursor
      let page := window.take n
      if n < window.length then
        (walk key n items fuel (page.getLast?.map key)).map (page :: ·)
      else some [page]

/-- At the end of every page that another one follows, the last key is at least every key before it
and less than every key after it. -/
def AscendsAtPageEnds (n : ℕ) (keys : List κ) : Prop :=
  ∀ k cursor, n * k < keys.length → (keys.take (n * k)).getLast? = some cursor →
    (∀ key ∈ keys.take (n * k), key ≤ cursor) ∧ ∀ key ∈ keys.drop (n * k), cursor < key

variable {key : α → κ} {n : ℕ} {items : List α}

/-! ## Following the cursor ends -/

theorem lt_of_mem_itemsAfter {cursor : κ} {item : α}
    (h : item ∈ itemsAfter key items (some cursor)) : cursor < key item :=
  of_decide_eq_true (List.mem_filter.1 h).2

theorem mem_of_mem_itemsAfter {cursor : Option κ} {item : α}
    (h : item ∈ itemsAfter key items cursor) : item ∈ items := by
  rcases cursor with - | cursor
  · exact h
  · exact (List.mem_filter.1 h).1

/-- A later cursor leaves fewer items, at least the one it stands on. -/
theorem length_itemsAfter_lt {cursor : Option κ} {last : α}
    (hlast : last ∈ itemsAfter key items cursor) :
    (itemsAfter key items (some (key last))).length < (itemsAfter key items cursor).length := by
  have hsub : (itemsAfter key items (some (key last))).Sublist
      ((itemsAfter key items cursor).filter fun item => key last < key item) := by
    rcases cursor with - | cursor
    · exact List.Sublist.refl _
    · have hlt : cursor < key last := lt_of_mem_itemsAfter hlast
      rw [itemsAfter, itemsAfter, List.filter_filter]
      refine List.monotone_filter_right items fun item hitem => ?_
      have hitem' : key last < key item := of_decide_eq_true hitem
      simp [hitem', hlt.trans hitem']
  have hless : ((itemsAfter key items cursor).filter fun item => key last < key item).length <
      (itemsAfter key items cursor).length :=
    List.length_filter_lt_length_iff_exists.2 ⟨last, hlast, by simp⟩
  exact hsub.length_le.trans_lt hless

theorem exists_getLast?_take {l : List α} (hn : 0 < n) (hl : n < l.length) :
    ∃ last ∈ l.take n, (l.take n).getLast? = some last := by
  have hne : l.take n ≠ [] := by
    rw [ne_eq, List.take_eq_nil_iff]
    rintro (rfl | rfl)
    · omega
    · simp at hl
  exact ⟨_, List.getLast_mem hne, List.getLast?_eq_some_getLast hne⟩

/-- As many turns as there are items left, and one more, are enough. -/
theorem walk_isSome (hn : 0 < n) {fuel : ℕ} :
    ∀ {cursor : Option κ}, (itemsAfter key items cursor).length < fuel →
      (walk key n items fuel cursor).isSome := by
  induction fuel with
  | zero => intro cursor h; omega
  | succ fuel ih =>
      intro cursor h
      rw [walk]
      split
      case isFalse => rfl
      case isTrue hmore =>
        obtain ⟨last, hmem, hlast⟩ := exists_getLast?_take hn hmore
        have hless := length_itemsAfter_lt (List.mem_of_mem_take hmem)
        rw [hlast, Option.map_some, Option.isSome_map]
        exact ih (by omega)

/-! ## What the pages show -/

/-- One turn: the window fits on a page, or the pages go on from the last item of a full one. -/
theorem walk_succ_cases (hn : 0 < n) {fuel : ℕ} {cursor : Option κ} {pages : List (List α)}
    (h : walk key n items (fuel + 1) cursor = some pages) :
    ((itemsAfter key items cursor).length ≤ n ∧ pages = [itemsAfter key items cursor]) ∨
      ∃ last rest, n < (itemsAfter key items cursor).length ∧
        ((itemsAfter key items cursor).take n).getLast? = some last ∧
        walk key n items fuel (some (key last)) = some rest ∧
        pages = (itemsAfter key items cursor).take n :: rest := by
  rw [walk] at h
  split at h
  case isTrue hmore =>
    obtain ⟨last, -, hlast⟩ := exists_getLast?_take hn hmore
    rw [hlast, Option.map_some] at h
    obtain ⟨rest, hrest, rfl⟩ := Option.map_eq_some_iff.1 h
    exact Or.inr ⟨last, rest, hmore, hlast, hrest, rfl⟩
  case isFalse hfits =>
    have hle : (itemsAfter key items cursor).length ≤ n := by omega
    rw [List.take_of_length_le hle] at h
    exact Or.inl ⟨hle, (Option.some.inj h).symm⟩

/-- The pages after a cursor show items after the cursor. -/
theorem mem_of_mem_walk (hn : 0 < n) {fuel : ℕ} :
    ∀ {cursor : κ} {pages : List (List α)}, walk key n items fuel (some cursor) = some pages →
      ∀ item ∈ pages.flatten, item ∈ items ∧ cursor < key item := by
  induction fuel with
  | zero => intro cursor pages h; cases h
  | succ fuel ih =>
      intro cursor pages h item hitem
      have hwindow : ∀ {item}, item ∈ itemsAfter key items (some cursor) →
          item ∈ items ∧ cursor < key item :=
        fun hmem => ⟨mem_of_mem_itemsAfter hmem, lt_of_mem_itemsAfter hmem⟩
      rcases walk_succ_cases hn h with ⟨-, rfl⟩ | ⟨last, rest, -, hlast, hrest, rfl⟩
      · rw [List.flatten_singleton] at hitem
        exact hwindow hitem
      · rw [List.flatten_cons, List.mem_append] at hitem
        rcases hitem with hpage | htail
        · exact hwindow (List.mem_of_mem_take hpage)
        · obtain ⟨hmem, hlt⟩ := ih hrest item htail
          have hcursor := hwindow (List.mem_of_mem_take (List.mem_of_getLast? hlast))
          exact ⟨hmem, hcursor.2.trans hlt⟩

/-- A walk that has items to show shows the first of them. -/
theorem head_mem_walk (hn : 0 < n) {fuel : ℕ} {cursor : Option κ} {pages : List (List α)}
    (h : walk key n items fuel cursor = some pages) {first : α} {rest : List α}
    (hfirst : itemsAfter key items cursor = first :: rest) : first ∈ pages.flatten := by
  rcases fuel with - | fuel
  · cases h
  · rcases walk_succ_cases hn h with ⟨-, rfl⟩ | ⟨last, more, -, -, -, rfl⟩
    · rw [List.flatten_singleton, hfirst]
      exact List.mem_cons_self
    · rw [List.flatten_cons, hfirst, List.take_cons hn]
      exact List.mem_append_left _ List.mem_cons_self

/-! ## When every item is shown once -/

/-- The last item of a page that starts after `n * k` items ends the first `n * (k + 1)` items. -/
theorem getLast?_take_succ {k : ℕ} {last : α}
    (hlast : ((items.drop (n * k)).take n).getLast? = some last) :
    (items.take (n * (k + 1))).getLast? = some last := by
  rw [Nat.mul_succ, List.take_add, List.getLast?_append, hlast]
  rfl

/-- The cursor at the end of a page leaves exactly the later items when the list ascends there. -/
theorem itemsAfter_eq_drop {m : ℕ} {cursor : κ} (hbefore : ∀ item ∈ items.take m, key item ≤ cursor)
    (hafter : ∀ item ∈ items.drop m, cursor < key item) :
    itemsAfter key items (some cursor) = items.drop m := by
  have hsplit : itemsAfter key items (some cursor) =
      (items.take m ++ items.drop m).filter fun item => cursor < key item := by
    rw [List.take_append_drop]
    rfl
  have hnone : (items.take m).filter (fun item => cursor < key item) = [] := by
    refine List.filter_eq_nil_iff.2 fun item hitem => ?_
    simpa using hbefore item hitem
  have hall : (items.drop m).filter (fun item => cursor < key item) = items.drop m := by
    refine List.filter_eq_self.2 fun item hitem => ?_
    simpa using hafter item hitem
  rw [hsplit, List.filter_append, hnone, hall, List.nil_append]

/-- Where the list ascends at the ends of its pages, the walk shows the list. -/
theorem walk_flatten (hn : 0 < n) (hascends : AscendsAtPageEnds n (items.map key)) {fuel : ℕ} :
    ∀ {k : ℕ} {cursor : Option κ} {pages : List (List α)},
      itemsAfter key items cursor = items.drop (n * k) →
      walk key n items fuel cursor = some pages → pages.flatten = items.drop (n * k) := by
  induction fuel with
  | zero => intro k cursor pages _ h; cases h
  | succ fuel ih =>
      intro k cursor pages hwindow h
      rcases walk_succ_cases hn h with ⟨-, rfl⟩ | ⟨last, rest, hmore, hlast, hrest, rfl⟩
      · rw [List.flatten_singleton, hwindow]
      · rw [hwindow, List.length_drop] at hmore
        rw [hwindow] at hlast
        have hlength : n * (k + 1) < items.length := by rw [Nat.mul_succ]; omega
        obtain ⟨hbefore, hafter⟩ := hascends (k + 1) (key last) (by simpa using hlength) (by
          rw [← List.map_take, List.getLast?_map, getLast?_take_succ hlast, Option.map_some])
        have hnext : itemsAfter key items (some (key last)) = items.drop (n * (k + 1)) := by
          refine itemsAfter_eq_drop (fun item hitem => hbefore _ ?_) fun item hitem => hafter _ ?_
          · rw [← List.map_take]
            exact List.mem_map_of_mem hitem
          · rw [← List.map_drop]
            exact List.mem_map_of_mem hitem
        rw [List.flatten_cons, ih hnext hrest, hwindow, Nat.mul_succ, ← List.drop_drop,
          List.take_append_drop]

/-- Where the walk shows every remaining item once, the list ascends at the end of every later
page. -/
theorem ascends_of_walk_perm (hn : 0 < n) (hnodup : items.Nodup) {fuel : ℕ} :
    ∀ {k : ℕ} {cursor : Option κ} {pages : List (List α)},
      itemsAfter key items cursor = items.drop (n * k) →
      walk key n items fuel cursor = some pages → pages.flatten.Perm (items.drop (n * k)) →
      ∀ j last, k < j → n * j < items.length → (items.take (n * j)).getLast? = some last →
        (∀ item ∈ items.take (n * j), key item ≤ key last) ∧
          ∀ item ∈ items.drop (n * j), key last < key item := by
  induction fuel with
  | zero => intro k cursor pages _ h; cases h
  | succ fuel ih =>
      intro k cursor pages hwindow h hperm j last hj hlength hjlast
      have hgrow : n * (k + 1) ≤ n * j := Nat.mul_le_mul_left n hj
      rcases walk_succ_cases hn h with ⟨hfits, -⟩ | ⟨current, rest, hmore, hcurrent, hrest, rfl⟩
      · -- the rest fits on a page, so no later page follows
        rw [hwindow, List.length_drop] at hfits
        rw [Nat.mul_succ] at hgrow
        omega
      · rw [hwindow] at hcurrent
        have hcut : items.drop (n * k) =
            (items.drop (n * k)).take n ++ items.drop (n * (k + 1)) := by
          rw [Nat.mul_succ, ← List.drop_drop, List.take_append_drop]
        have hrestPerm : rest.flatten.Perm (items.drop (n * (k + 1))) := by
          rw [List.flatten_cons, hwindow] at hperm
          exact (List.perm_append_left_iff _).1 (hperm.trans (List.Perm.of_eq hcut))
        have hafter : ∀ item ∈ items.drop (n * (k + 1)), key current < key item := by
          intro item hitem
          exact (mem_of_mem_walk hn hrest item (hrestPerm.mem_iff.2 hitem)).2
        -- an item shown before that comes after the cursor would be shown again
        have hbefore : ∀ item ∈ items.take (n * (k + 1)), key item ≤ key current := by
          by_contra hsome
          push Not at hsome
          obtain ⟨item, hitem, hlt⟩ := hsome
          have hkept : item ∈ (items.take (n * (k + 1))).filter fun item =>
              key current < key item := List.mem_filter.2 ⟨hitem, by simpa using hlt⟩
          obtain ⟨first, others, hfirst⟩ := List.exists_cons_of_ne_nil (List.ne_nil_of_mem hkept)
          have hsplit : itemsAfter key items (some (key current)) = first :: (others ++
              (items.drop (n * (k + 1))).filter fun item => key current < key item) := by
            rw [← List.cons_append, ← hfirst, ← List.filter_append, List.take_append_drop]
            rfl
          have hshown := hrestPerm.mem_iff.1 (head_mem_walk hn hrest hsplit)
          have hfiltered : first ∈ (items.take (n * (k + 1))).filter fun item =>
              key current < key item := by
            rw [hfirst]
            exact List.mem_cons_self
          have hold : first ∈ items.take (n * (k + 1)) := (List.mem_filter.1 hfiltered).1
          exact List.disjoint_take_drop hnodup le_rfl hold hshown
        rcases Nat.lt_or_ge (k + 1) j with hlater | hnow
        · exact ih (itemsAfter_eq_drop hbefore hafter) hrest hrestPerm j last hlater hlength hjlast
        · obtain rfl : j = k + 1 := by omega
          rw [getLast?_take_succ hcurrent, Option.some.injEq] at hjlast
          exact hjlast ▸ ⟨hbefore, hafter⟩

/-- Over a list of distinct items, the walk shows every item once exactly when the keys ascend at the
ends of the pages. -/
theorem walk_perm_iff (hn : 0 < n) (hnodup : items.Nodup) :
    (∃ fuel pages, walk key n items fuel none = some pages ∧ pages.flatten.Perm items) ↔
      AscendsAtPageEnds n (items.map key) := by
  have hstart : itemsAfter key items none = items.drop (n * 0) := by simp [itemsAfter]
  constructor
  · rintro ⟨fuel, pages, hpages, hperm⟩ k cursor hlength hcursor
    rw [List.length_map] at hlength
    rw [← List.map_take, List.getLast?_map] at hcursor
    obtain ⟨last, hlast, rfl⟩ := Option.map_eq_some_iff.1 hcursor
    have hk : 0 < k := by
      refine Nat.pos_of_ne_zero ?_
      rintro rfl
      rw [Nat.mul_zero, List.take_zero] at hlast
      cases hlast
    obtain ⟨hbefore, hafter⟩ := ascends_of_walk_perm hn hnodup hstart hpages
      (by rwa [Nat.mul_zero, List.drop_zero]) k last hk hlength hlast
    rw [← List.map_take, ← List.map_drop]
    exact ⟨List.forall_mem_map.2 hbefore, List.forall_mem_map.2 hafter⟩
  · intro hascends
    have henough : (itemsAfter key items none).length < items.length + 1 := Nat.lt_succ_self _
    obtain ⟨pages, hpages⟩ := Option.isSome_iff_exists.1 (walk_isSome hn henough)
    refine ⟨items.length + 1, pages, hpages, List.Perm.of_eq ?_⟩
    rw [walk_flatten hn hascends hstart hpages, Nat.mul_zero, List.drop_zero]

/-! ## Items that carry more than the key reads -/

theorem itemsAfter_map (f : β → α) (marked : List β) (cursor : Option κ) :
    (itemsAfter (fun item => key (f item)) marked cursor).map f =
      itemsAfter key (marked.map f) cursor := by
  rcases cursor with - | cursor
  · rfl
  · rw [itemsAfter, itemsAfter, List.filter_map]
    rfl

/-- The walk over a list is the walk over the same list with marks on its items. -/
theorem walk_map (f : β → α) (marked : List β) (fuel : ℕ) (cursor : Option κ) :
    (walk (fun item => key (f item)) n marked fuel cursor).map (·.map (·.map f)) =
      walk key n (marked.map f) fuel cursor := by
  induction fuel generalizing cursor with
  | zero => rfl
  | succ fuel ih =>
      have hwindow : (itemsAfter (fun item => key (f item)) marked cursor).map f =
          itemsAfter key (marked.map f) cursor := itemsAfter_map f marked cursor
      have hlast : ((itemsAfter (fun item => key (f item)) marked cursor).take n).getLast?.map
          (fun item => key (f item)) =
            ((itemsAfter key (marked.map f) cursor).take n).getLast?.map key := by
        rw [← hwindow, ← List.map_take, List.getLast?_map, Option.map_map]
        rfl
      rw [walk, walk, ← hlast, ← hwindow]
      simp only [List.length_map]
      split
      · rw [← ih, Option.map_map, Option.map_map]
        refine congrArg (Option.map · _) ?_
        funext pages
        simp
      · simp
