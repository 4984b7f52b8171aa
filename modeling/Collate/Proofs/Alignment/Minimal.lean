import Collate.Proofs.Alignment.Gaps

/-!
# Alignments are minimal

An edit script turns one list of lines into another: it accounts for the lines of both in order,
shows no line as changed, and keeps a line only as an equal one (`IsScript`). An alignment is an
edit script, and none has fewer removals and additions.

The removals and additions of a script are the lines of both lists less the kept ones, each counted
twice (`IsScript.edits_add`). So a script is shorter than another only if it keeps more, and what a
script keeps is a subsequence of both lists (`exists_kept_sublist`), no longer than the longest one.
An alignment keeps that many lines (`countP_unchanged_alignLines`).
-/

namespace Collate

open Collate.Merge

namespace Alignment

variable {α : Type}

/-- The number of removals and additions. -/
def edits (es : List Entry) : Nat :=
  es.countP (·.tag = .removed) + es.countP (·.tag = .added)

/-- Entries that lead from one list of lines to another by removals and additions only. -/
structure IsScript (as bs : List α) (es : List Entry) : Prop where
  /-- Every line of both lists is accounted for, in order. -/
  path : Entry.Path 0 0 es as.length bs.length
  /-- No line is shown as changed. -/
  changed_not_mem : ∀ l r : Int, .changed l r ∉ es
  /-- A kept line is the same in both lists. -/
  equal : ∀ l r : Int, .unchanged l r ∈ es →
    ∃ (i j : Nat) (x : α), l = i ∧ r = j ∧ as[i]? = some x ∧ bs[j]? = some x

/-- Without a changed line every line is removed, added, or kept on both sides. -/
theorem IsScript.edits_add {as bs : List α} {es : List Entry} (h : IsScript as bs es) :
    edits es + 2 * es.countP (·.tag = .unchanged) = as.length + bs.length := by
  have hleft := h.path.count_left
  have hright := h.path.count_right
  have hchanged : es.countP (·.tag = .changed) = 0 := by
    rw [List.countP_eq_zero]
    intro e he htag
    cases e with
    | changed l r => exact h.changed_not_mem l r he
    | unchanged l r | removed l | added r => cases of_decide_eq_true htag
  unfold edits
  omega

/-- The lines that a path keeps from a place on are a subsequence of what both lists hold from there
on, if kept lines are equal. -/
theorem exists_kept_sublist {as bs : List α} {es : List Entry} {i j n m : Nat}
    (h : Entry.Path i j es n m)
    (hequal : ∀ l r : Int, .unchanged l r ∈ es →
      ∃ (i j : Nat) (x : α), l = i ∧ r = j ∧ as[i]? = some x ∧ bs[j]? = some x) :
    ∃ s : List α, s.Sublist (as.drop i) ∧ s.Sublist (bs.drop j) ∧
      s.length = es.countP (·.tag = .unchanged) := by
  have hleft : ∀ i, (as.drop (i + 1)).Sublist (as.drop i) :=
    fun i => List.drop_sublist_drop_left as (Nat.le_succ i)
  have hright : ∀ j, (bs.drop (j + 1)).Sublist (bs.drop j) :=
    fun j => List.drop_sublist_drop_left bs (Nat.le_succ j)
  induction h with
  | nil i j => exact ⟨[], List.nil_sublist _, List.nil_sublist _, rfl⟩
  | unchanged h ih =>
    obtain ⟨s, ha, hb, hs⟩ := ih fun l r hmem => hequal l r (List.mem_cons_of_mem _ hmem)
    obtain ⟨i, j, x, hi, hj, hx, hy⟩ := hequal _ _ List.mem_cons_self
    obtain rfl := Int.ofNat_inj.1 hi
    obtain rfl := Int.ofNat_inj.1 hj
    -- the line at the place itself goes before what is kept after it
    obtain ⟨hlt, rfl⟩ := List.getElem?_eq_some_iff.1 hx
    obtain ⟨hlt', hxy⟩ := List.getElem?_eq_some_iff.1 hy
    rw [List.drop_eq_getElem_cons hlt, List.drop_eq_getElem_cons hlt', hxy]
    exact ⟨_ :: s, ha.cons_cons _, hb.cons_cons _, by simp [hs]⟩
  | changed h ih =>
    obtain ⟨s, ha, hb, hs⟩ := ih fun l r hmem => hequal l r (List.mem_cons_of_mem _ hmem)
    exact ⟨s, ha.trans (hleft _), hb.trans (hright _), by simp [hs]⟩
  | removed h ih =>
    obtain ⟨s, ha, hb, hs⟩ := ih fun l r hmem => hequal l r (List.mem_cons_of_mem _ hmem)
    exact ⟨s, ha.trans (hleft _), hb, by simp [hs]⟩
  | added h ih =>
    obtain ⟨s, ha, hb, hs⟩ := ih fun l r hmem => hequal l r (List.mem_cons_of_mem _ hmem)
    exact ⟨s, ha, hb.trans (hright _), by simp [hs]⟩

variable [DecidableEq α]

/-- No script keeps more lines than a longest common subsequence has. -/
theorem IsScript.countP_unchanged_le {as bs : List α} {es : List Entry} (h : IsScript as bs es) :
    es.countP (·.tag = .unchanged) ≤ longest as bs := by
  obtain ⟨s, ha, hb, hs⟩ := exists_kept_sublist h.path h.equal
  rw [← hs]
  exact length_le_longest ha hb

/-- An alignment is a script. -/
theorem isScript_alignLines (as bs : List α) : IsScript as bs (alignLines as bs) where
  path := path_alignLines as bs
  changed_not_mem := changed_not_mem_alignLines as bs
  equal _ _ := of_unchanged_mem_alignLines

/-- No script has fewer removals and additions than an alignment. -/
theorem IsScript.edits_alignLines_le {as bs : List α} {es : List Entry} (h : IsScript as bs es) :
    edits (alignLines as bs) ≤ edits es := by
  have halign := (isScript_alignLines as bs).edits_add
  have hscript := h.edits_add
  have hkept := h.countP_unchanged_le
  rw [countP_unchanged_alignLines] at halign
  omega

end Alignment

open Collate.Alignment

namespace Diff

/-- A diff that only keeps, removes and adds lines, and keeps a line only as the same one. -/
structure IsScript (d : Diff) : Prop where
  /-- No line is shown as changed. -/
  changed_not_mem : ∀ l r : Int, .changed l r ∉ d.entries
  /-- A kept line is the same on both sides. -/
  line?_eq : ∀ l r : Int, .unchanged l r ∈ d.entries →
    ∃ line, d.left.line? l = some line ∧ d.right.line? r = some line

/-- The entries of such a diff are a script for the lines of its listings. -/
theorem IsScript.entries {d : Diff} (h : d.IsScript) :
    Alignment.IsScript d.left.lines d.right.lines d.entries where
  path := d.path
  changed_not_mem := h.changed_not_mem
  equal l r hmem := by
    obtain ⟨line, hl, hr⟩ := h.line?_eq l r hmem
    obtain ⟨i, rfl, ha⟩ := Listing.exists_of_line?_eq_some hl
    obtain ⟨j, rfl, hb⟩ := Listing.exists_of_line?_eq_some hr
    exact ⟨i, j, line, rfl, rfl, ha, hb⟩

/-- The diff of an alignment is a script. -/
theorem isScript_align {left right : Listing} {d : Diff} (h : align left right = .ok d) :
    d.IsScript where
  changed_not_mem := changed_not_mem_align h
  line?_eq l r hmem := by
    obtain ⟨line, hl, hr⟩ := line?_eq_of_unchanged_mem_align h hmem
    obtain ⟨rfl, rfl, -⟩ := of_align_eq_ok h
    exact ⟨line, hl, hr⟩

/-- **An alignment is a minimal edit script in canonical order.** For any two lists of lines it only
keeps, removes and adds lines, keeps equal ones, and has no removal right behind an addition; and no
script for the same lists has fewer removals and additions. The lines of two listings always get a
diff this way, and no diff of the two that only keeps, removes and adds lines and keeps equal ones
has fewer removals and additions. -/
theorem align_isMinimal (as bs : List Text) :
    Alignment.IsScript as bs (alignLines as bs) ∧ Canonical (alignLines as bs) ∧
    (∀ es, Alignment.IsScript as bs es → edits (alignLines as bs) ≤ edits es) ∧
    ∀ left right : Listing, left.lines = as → right.lines = bs →
      ∃ d, align left right = .ok d ∧ d.entries = alignLines as bs ∧ d.IsScript ∧ d.IsCanonical ∧
        ∀ es d', ofEntries left right es = .ok d' → d'.IsScript →
          d.count .removed + d.count .added ≤ d'.count .removed + d'.count .added := by
  refine ⟨isScript_alignLines as bs, canonical_alignLines as bs,
    fun es hscript => hscript.edits_alignLines_le, ?_⟩
  rintro left right rfl rfl
  obtain ⟨d, hd⟩ := exists_align left right
  obtain ⟨-, -, hentries⟩ := of_align_eq_ok hd
  refine ⟨d, hd, hentries, isScript_align hd, isCanonical_align hd, ?_⟩
  intro es d' hd' hscript
  obtain ⟨rfl, rfl, -⟩ := ofEntries_eq_ok_iff.1 hd'
  have hle := hscript.entries.edits_alignLines_le
  rw [← hentries] at hle
  exact hle

/-- Two edits lead from one of these listings to the other; the diff that gives up the line they
share and mixes the sides has four. -/
theorem align_isMinimal_swapped :
    let left : Listing := .plain [['a'], ['b']] (by decide)
    let right : Listing := .plain [['b'], ['c']] (by decide)
    ∃ d d', align left right = .ok d ∧
      ofEntries left right [.added 0, .removed 0, .added 1, .removed 1] = .ok d' ∧ d'.IsScript ∧
      d.count .removed + d.count .added = 2 ∧ d'.count .removed + d'.count .added = 4 ∧
      d.count .removed + d.count .added ≤ d'.count .removed + d'.count .added := by
  intro left right
  obtain ⟨-, -, -, hdiff⟩ := align_isMinimal [['a'], ['b']] [['b'], ['c']]
  obtain ⟨d, hd, hentries, -, -, hminimal⟩ := hdiff left right rfl rfl
  obtain ⟨d', hd'⟩ := exists_ofEntries_eq_ok_iff.2
    (.added (.removed (.added (.removed (.nil 2 2)))) :
      Entry.Path 0 0 [.added 0, .removed 0, .added 1, .removed 1] left.size right.size)
  obtain ⟨-, -, hentries'⟩ := ofEntries_eq_ok_iff.1 hd'
  have hscript : d'.IsScript := by
    constructor <;> intro l r hmem <;> rw [hentries'] at hmem <;> simp at hmem
  have hcount : edits (alignLines left.lines right.lines) = 2 := by decide +kernel
  refine ⟨d, d', hd, hd', hscript, ?_, ?_, hminimal _ d' hd' hscript⟩
  · rw [← hcount, count, count, hentries]
    rfl
  · rw [count, count, hentries']
    rfl

end Diff

end Collate
