import Collate.Proofs.Comparison.Faithful
import Collate.Proofs.Names.Counters

/-!
# Listings of a recompiled function

A code that is compiled again comes with other counters in its generated names. Shortening takes
away the counters that it finds, so it makes one text of the code and of the recompiled one, and a
comparison cannot tell them apart (`Compare.codes_recount`). Nothing is assumed of the new counters,
which may be longer or shorter than the old ones and differ from name to name.
-/

namespace Collate

open Collate.Highlight Collate.Names Collate.Options

namespace Compare

variable {o : ComparisonOptions} {h : Option Highlighter} {code1 code1' code2 code2' : Text}

/-- A comparison answers by the prepared codes. -/
theorem result_codes_congr (h1 : prepared o code1 = prepared o code1')
    (h2 : prepared o code2 = prepared o code2') :
    (codes o h code1 code2).result = (codes o h code1' code2').result := by
  apply result_codes_of_lines
  · rw [preparedLines, h1, preparedLines]
  · rw [preparedLines, h2, preparedLines]

/-- A comparison of codes that are prepared to the same text finds no changes. -/
theorem hasChanges_of_prepared_eq (hprepared : prepared o code1 = prepared o code2) {d : Diff}
    (hd : (codes o h code1 code2).result = .ok d) : d.hasChanges = false := by
  obtain ⟨hleft, hright⟩ := preparedLines_of_codes hd
  rw [preparedLines, hprepared, ← preparedLines, hright] at hleft
  rw [hasChanges_eq_false_iff_of_codes hd]
  exact (Except.ok.inj hleft).symm

/-- **Shortening does not depend on the counters that it matches.** With the usual leads, for all
functions or for one: a text in which every name that is found has got a counter of any other digits
is shortened to the same text. A comparison that shortens the generated names answers for a code and
such a recompiled code what it answers for the code with itself, and finds no changes. -/
theorem codes_recount (function : Setting) (hfunction : IsFunctionSetting function) :
    ∃ p, Pattern.make defaultLeads function = .ok p ∧
      ∀ (code : Text) (fresh : Occurrence → Text), (∀ o ∈ p.occurrences code, IsCounter (fresh o)) →
        p.shorten (p.recount fresh code) = p.shorten code ∧
        ∀ o : ComparisonOptions, o.normalize.holds = true → o.codeType.hasGeneratedNames = true →
          o.functionName = function → ∀ h : Option Highlighter,
            (codes o h code (p.recount fresh code)).result = (codes o h code code).result ∧
            ∀ d, (codes o h code (p.recount fresh code)).result = .ok d → d.hasChanges = false := by
  obtain ⟨p, hmake, -, hp⟩ := exists_make hfunction
  refine ⟨p, hmake, fun code fresh hfresh => ?_⟩
  have hcode := recounted_recount hp hfresh
  refine ⟨hcode.shorten_eq hp, fun o hnormalize hnames hname h => ?_⟩
  have hprepared : prepared o code = prepared o (p.recount fresh code) := by
    unfold prepared
    rw [hnormalize, hnames, hname, hmake]
    exact congrArg Except.ok ((hcode.dropMark hp).shorten_eq hp).symm
  exact ⟨result_codes_congr rfl hprepared.symm, fun d hd => hasChanges_of_prepared_eq hprepared hd⟩

/-- A nested name, a name that reaches over a sign, and digits of another script. -/
theorem codes_recount_nested :
    let code := "\ufeffcall @julia_julia_f_1_2(jfptr_g_3+h_4)".toList
    let fresh : Occurrence → Text := fun o => if o.first < 10 then "٠٧".toList else "10".toList
    let o : ComparisonOptions := ⟨.native, .bool false, .bool true, .null, .bool true, .int 0,
      .text Metric.levenshtein.name, .null, .null, rfl⟩
    ∃ p, Pattern.make defaultLeads .null = .ok p ∧
      p.recount fresh code = "\ufeffcall @julia_julia_f_1_٠٧(jfptr_g_3+h_10)".toList ∧
      p.shorten (p.recount fresh code) = "\ufeffcall @f(g_3+h)".toList ∧
      ∃ d, (codes o none code (p.recount fresh code)).result = .ok d ∧ d.hasChanges = false := by
  intro code fresh o
  obtain ⟨p, hmake, h⟩ := codes_recount .null (.inl rfl)
  obtain rfl : ⟨defaultLeads, none⟩ = p := Except.ok.inj hmake
  obtain ⟨hshorten, hcodes⟩ := h code fresh (by decide +kernel)
  have hrecount : (⟨defaultLeads, none⟩ : Pattern).recount fresh code =
      "\ufeffcall @julia_julia_f_1_٠٧(jfptr_g_3+h_10)".toList := by decide +kernel
  have hresult : (codes o none code code).result.toOption.isSome = true := by decide +kernel
  obtain ⟨hsame, hchanges⟩ := hcodes o rfl rfl rfl none
  obtain ⟨d, hd⟩ := isSome_toOption_iff.1 hresult
  have hd := hsame.trans hd
  exact ⟨_, rfl, hrecount, hshorten.trans (by decide +kernel), d, hd, hchanges d hd⟩

end Compare

end Collate
