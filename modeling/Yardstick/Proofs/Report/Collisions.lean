import Yardstick.Proofs.Metric.ComputedName
import Yardstick.Proofs.Plan.Resolved
import Yardstick.Proofs.Report.Taken

/-!
# Requests that collide

Which requests ask for metrics of one name: base metrics if aggregation and slug are the same or the one
name reads as the other, computed metrics if one of them shares the name of the other. A report is
rejected for two of its base metrics, or for two of its computed ones, in these cases only.
-/

namespace Yardstick

section

variable {d : Dimension} {t : Translator} {m : Metric} {a : Aggregation} {c : ComputedRequest}

theorem baseName_of_makeAsked (h : makeAsked t (d, .aggregation a) = .ok m) :
    baseName a d.module d.id = .ok m.name := by
  obtain ⟨b, hb, rfl⟩ := map_eq_ok.1 h
  unfold Dimension.baseMetric at hb
  obtain ⟨name, hname, hb⟩ := bind_eq_ok.1 hb
  obtain ⟨label, -, hb⟩ := bind_eq_ok.1 hb
  obtain ⟨documentation, -, hb⟩ := bind_eq_ok.1 hb
  obtain ⟨column, -, hb⟩ := bind_eq_ok.1 hb
  obtain ⟨rfl, -⟩ := BaseMetric.make_eq_ok (mapError_eq_ok.1 hb)
  exact mapError_eq_ok.1 hname

theorem computedName_of_makeAsked (h : makeAsked t (d, .computed c) = .ok m) :
    computedName c.numerator c.denominator c.formula = m.name := by
  obtain ⟨b, hb, rfl⟩ := map_eq_ok.1 h
  exact (computedMetric_eq_ok hb).1.symm

theorem exists_slug_of_baseName {a a' : Aggregation} {module id module' id' name name' : String}
    (h : baseName a module id = .ok name) (h' : baseName a' module' id' = .ok name') :
    ∃ s s', slug module id = .ok s ∧ slug module' id' = .ok s' ∧
      (name = name' ↔ (a = a' ∧ s = s') ∨ ReadsAs a s a' s' ∨ ReadsAs a' s' a s) := by
  obtain ⟨s, hs, rfl⟩ := baseName_eq_ok_iff.1 h
  obtain ⟨s', hs', rfl⟩ := baseName_eq_ok_iff.1 h'
  exact ⟨s, s', hs, hs', namePrefix_append_eq_iff⟩

/-! ## Base metrics -/

/-- The names of two base metrics coincide exactly if aggregation and slug do or the one reads as the
other, and a report that fails for a name that is taken is rejected for two of its base metrics only if
they are related in this way. -/
theorem baseName_eq_iff_readsAs :
    (∀ (a a' : Aggregation) (module id module' id' name name' : String),
      baseName a module id = .ok name → baseName a' module' id' = .ok name' →
        ∃ s s', slug module id = .ok s ∧ slug module' id' = .ok s' ∧
          (name = name' ↔ (a = a' ∧ s = s') ∨ ReadsAs a s a' s' ∨ ReadsAs a' s' a s)) ∧
    ∀ (d : ReportDefinition) (t : Translator) (name : String),
      (d.build t).outcome.1 = .error (.error (.duplicate name)) →
        (∃ x y, d.RejectedFor t x y name) ∧
          ∀ x y a a', d.RejectedFor t x y name → x.2 = .aggregation a → y.2 = .aggregation a' →
            ∃ s s', slug x.1.module x.1.id = .ok s ∧ slug y.1.module y.1.id = .ok s' ∧
              ((a = a' ∧ s = s') ∨ ReadsAs a s a' s' ∨ ReadsAs a' s' a s) := by
  refine ⟨fun _ _ _ _ _ _ _ _ => exists_slug_of_baseName,
    fun d t name h => ⟨d.exists_rejectedFor h, ?_⟩⟩
  rintro ⟨dx, x⟩ ⟨dy, y⟩ a a' hrejected rfl rfl
  obtain ⟨m, n, hm, hn, hname⟩ := hrejected.exists_name_eq
  obtain ⟨s, s', hs, hs', hiff⟩ :=
    exists_slug_of_baseName (baseName_of_makeAsked hm) (baseName_of_makeAsked hn)
  exact ⟨s, s', hs, hs', hiff.1 hname⟩

/-- Countries of users who are counted, and of users of whom the unique ones are. -/
def countriesReport : ReportDefinition where
  id := "countries"
  dimensions :=
    [{ dimension := ⟨"country", "Uniq User", "users", none, none, some "country", "Country", none⟩
       aggregations := [.count]
       custom := []
       computed := [] },
     { dimension := ⟨"country", "User", "users", none, none, some "country", "Country", none⟩
       aggregations := [.uniqueCount]
       custom := []
       computed := [] }]

theorem outcome_build_countriesReport :
    (countriesReport.build (.ofCatalogs [] "en" "en")).outcome.1 =
      .error (.error (.duplicate "nb_uniq_user_country")) := by
  have hregistry : countriesReport.registry (.ofCatalogs [] "en" "en") =
      .error (.error (.duplicate "nb_uniq_user_country")) := by decide +kernel
  exact (countriesReport.yields_build (.ofCatalogs [] "en" "en")).outcome.trans hregistry

theorem baseName_eq_iff_readsAs_countriesReport :
    baseName .count "Uniq User" "country" = .ok "nb_uniq_user_country" ∧
    baseName .uniqueCount "User" "country" = .ok "nb_uniq_user_country" ∧
    (∃ s s', slug "Uniq User" "country" = .ok s ∧ slug "User" "country" = .ok s' ∧
      ("nb_uniq_user_country" = "nb_uniq_user_country" ↔
        (Aggregation.count = .uniqueCount ∧ s = s') ∨ ReadsAs .count s .uniqueCount s' ∨
          ReadsAs .uniqueCount s' .count s)) ∧
    (∃ x y, countriesReport.RejectedFor (.ofCatalogs [] "en" "en") x y "nb_uniq_user_country") ∧
    ∀ x y a a', countriesReport.RejectedFor (.ofCatalogs [] "en" "en") x y "nb_uniq_user_country" →
      x.2 = .aggregation a → y.2 = .aggregation a' →
        ∃ s s', slug x.1.module x.1.id = .ok s ∧ slug y.1.module y.1.id = .ok s' ∧
          ((a = a' ∧ s = s') ∨ ReadsAs a s a' s' ∨ ReadsAs a' s' a s) :=
  ⟨rfl, rfl, baseName_eq_iff_readsAs.1 .count .uniqueCount "Uniq User" "country" "User" "country" _ _
    rfl rfl, baseName_eq_iff_readsAs.2 _ _ _ outcome_build_countriesReport⟩

/-- Base metrics of different aggregations and different slugs with one name, and a report rejected
for them. -/
theorem baseName_count_eq_baseName_uniqueCount :
    baseName .count "Uniq User" "country" = .ok "nb_uniq_user_country" ∧
    baseName .uniqueCount "User" "country" = .ok "nb_uniq_user_country" ∧
    slug "Uniq User" "country" = .ok "uniq_user_country" ∧
    slug "User" "country" = .ok "user_country" ∧
    (countriesReport.build (.ofCatalogs [] "en" "en")).outcome.1 =
      .error (.error (.duplicate "nb_uniq_user_country")) :=
  ⟨rfl, rfl, rfl, rfl, outcome_build_countriesReport⟩

/-! ## Computed metrics -/

/-- Two computed requests ask for metrics of one name exactly if one of them shares the name of the
other, and a report that fails for a name that is taken is rejected for two of its computed metrics
only if their requests are related in this way. -/
theorem computedName_eq_iff_sharesName :
    (∀ p q : ComputedRequest, computedName p.numerator p.denominator p.formula =
      computedName q.numerator q.denominator q.formula ↔ SharesName p q ∨ SharesName q p) ∧
    ∀ (d : ReportDefinition) (t : Translator) (name : String),
      (d.build t).outcome.1 = .error (.error (.duplicate name)) →
        (∃ x y, d.RejectedFor t x y name) ∧
          ∀ x y p q, d.RejectedFor t x y name → x.2 = .computed p → y.2 = .computed q →
            SharesName p q ∨ SharesName q p := by
  refine ⟨fun p q => computedName_eq_iff, fun d t name h => ⟨d.exists_rejectedFor h, ?_⟩⟩
  rintro ⟨dx, x⟩ ⟨dy, y⟩ p q hrejected rfl rfl
  obtain ⟨m, n, hm, hn, hname⟩ := hrejected.exists_name_eq
  rw [← computedName_eq_iff, computedName_of_makeAsked hm, computedName_of_makeAsked hn, hname]

/-- Two averages over visits whose numerators differ in their prefixes. -/
def visitorsReport : ReportDefinition where
  id := "visitors"
  dimensions :=
    [{ dimension := ⟨"country", "User", "users", none, none, some "country", "Country", none⟩
       aggregations := []
       custom := []
       computed := [⟨"nb_visitors", "nb_visits", .average⟩, ⟨"nb_uniq_visitors", "nb_visits", .average⟩] }]

theorem outcome_build_visitorsReport :
    (visitorsReport.build (.ofCatalogs [] "en" "en")).outcome.1 =
      .error (.error (.duplicate "avg_visitors_per_visits")) := by
  have hregistry : visitorsReport.registry (.ofCatalogs [] "en" "en") =
      .error (.error (.duplicate "avg_visitors_per_visits")) := by decide +kernel
  exact (visitorsReport.yields_build (.ofCatalogs [] "en" "en")).outcome.trans hregistry

/-- Rates of different numerators, too, share a name, since it can be cut at two underscores. -/
theorem computedName_eq_iff_sharesName_visitorsReport :
    (computedName "bounce" "count_visits" .rate = computedName "bounce_count" "visits" .rate ↔
      SharesName ⟨"bounce", "count_visits", .rate⟩ ⟨"bounce_count", "visits", .rate⟩ ∨
        SharesName ⟨"bounce_count", "visits", .rate⟩ ⟨"bounce", "count_visits", .rate⟩) ∧
    (∃ x y, visitorsReport.RejectedFor (.ofCatalogs [] "en" "en") x y "avg_visitors_per_visits") ∧
    ∀ x y p q, visitorsReport.RejectedFor (.ofCatalogs [] "en" "en") x y "avg_visitors_per_visits" →
      x.2 = .computed p → y.2 = .computed q → SharesName p q ∨ SharesName q p :=
  ⟨computedName_eq_iff_sharesName.1 ⟨"bounce", "count_visits", .rate⟩ ⟨"bounce_count", "visits", .rate⟩,
    computedName_eq_iff_sharesName.2 _ _ _ outcome_build_visitorsReport⟩

/-- Requests that differ, for one name, and a report rejected for them. -/
theorem computedName_nb_eq_computedName_nb_uniq :
    (("nb_visitors", "nb_visits", Formula.average) ≠ ("nb_uniq_visitors", "nb_visits", .average)) ∧
    "nb_visitors" ≠ "nb_visits" ∧ "nb_uniq_visitors" ≠ "nb_visits" ∧
    computedName "nb_visitors" "nb_visits" .average =
      computedName "nb_uniq_visitors" "nb_visits" .average ∧
    (visitorsReport.build (.ofCatalogs [] "en" "en")).outcome.1 =
      .error (.error (.duplicate "avg_visitors_per_visits")) :=
  ⟨by decide, by decide, by decide, by decide, outcome_build_visitorsReport⟩

end

end Yardstick
