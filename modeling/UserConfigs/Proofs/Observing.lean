import Mathlib
import UserConfigs.Proofs.Sources
import UserConfigs.Proofs.Trimming

/-!
# What a template observes

A template is rendered to the same in contexts that agree on the names that its paths ask for
(`render_of_agree_on_names`). The paths stand in its text, those in the arguments of functions,
filters and tests too, so each identifier among the names does (`infix_of_mem_names`). A path can
ask for other names : what stands in brackets is read as a path unless it is quoted or a number that
can be an index, so `a[-1]` asks for a name `-1` (`render_differs`), and a quoted key with brackets
in it asks for what stands in these.

This is not so for a text with the name of all bindings in it, and it is not said of templates that
ask for more than names : calls of macros, the clock, chance and the template inserted in itself.
-/

namespace UserConfigs.Template

/-- All paths of a template stand in its text. -/
theorem isFrom_of_mem_queries {text : String} {t : Template} (h : parse text = .ok t) :
    ∀ q ∈ t.queries, q.IsFrom text.toList := by
  obtain ⟨nodes, hbody, -, rfl⟩ := parse_eq_ok_iff.mp h
  have hdepth : text.toList.length < text.toList.length + 1 := Nat.lt_succ_self _
  have hcarries := bodyCarries (follows_nil text.toList) (levelTwin hdepth hdepth)
    (text.toList.length + 1) (text.toList.length + 1)
  have hfrom := ((hcarries (.same .plain)).leaves (List.suffix_refl _) (by omega) hbody).1
  have hparts := map_partsAll_trimAll Node.queries_trim (fun _ _ => rfl) false false nodes
  intro q hq
  rw [queries, List.flatMap_def, hparts, ← List.flatMap_def] at hq
  obtain ⟨n, hn, hmem⟩ := List.mem_flatMap.mp hq
  exact forall_mem_partsAll.mpr hfrom n hn q hmem

/-- An identifier that a template asks for stands in its text. -/
theorem infix_of_mem_names {text : String} {t : Template} (h : parse text = .ok t) {x : String}
    (hx : x ∈ t.names) (hname : IsIdentifier x.toList) : x.toList <:+: text.toList := by
  obtain ⟨q, hq, hmem⟩ := List.mem_flatMap.mp hx
  cases q with
  | outside => simp [Query.names] at hmem
  | path p =>
    obtain ⟨hpart, hopens⟩ := isFrom_of_mem_queries h _ hq
    exact (infix_of_mem_namesWithin hname _ hopens hmem).trans hpart

/-- A text without the name of all bindings does not ask for them. -/
theorem whole_notMem_queries {text : String} {t : Template} (h : parse text = .ok t)
    (hwhole : ¬wholeContext.toList <:+: text.toList) : .path wholeContext ∉ t.queries := fun hq =>
  hwhole (isFrom_of_mem_queries h _ hq).1

/-- A template whose text does not name all bindings at once, and that asks for nothing but what
names tell, is rendered to the same, or fails in the same way, in contexts that agree on the names
that its paths ask for. The identifiers among these stand in the text. -/
theorem render_of_agree_on_names [World] {text : String} {t : Template} (h : parse text = .ok t)
    (hwhole : ¬wholeContext.toList <:+: text.toList) (houtside : .outside ∉ t.queries) :
    (∀ x ∈ t.names, IsIdentifier x.toList → x.toList <:+: text.toList) ∧
      ∀ c c' : Context, (∀ x ∈ t.names, Fields.get? x c = Fields.get? x c') →
        t.render c = t.render c' :=
  ⟨fun _ => infix_of_mem_names h, fun _ _ =>
    render_of_agree (whole_notMem_queries h hwhole) houtside⟩

/-- A name that stands nowhere in the text, and two that stand in the argument of a function. -/
theorem render_of_agree_on_names_range :
    ∃ t, parse "\x7b\x7b range(end=a[b]) \x7d\x7d" = .ok t ∧ t.names = ["a", "b"] ∧
      t.render [("a", .array [.number (.whole 2)]), ("b", .number (.whole 0)), ("z", .bool true)] =
        t.render [("a", .array [.number (.whole 2)]), ("b", .number (.whole 0))] := by
  have hparse : parse "\x7b\x7b range(end=a[b]) \x7d\x7d" = .ok ⟨[.value ⟨false, false⟩
      (.mk (.call (.mk "range" [("end", .mk (.path "a[b]") false [])])) false [])]⟩ := by cbv
  have hnames : Template.names ⟨[.value ⟨false, false⟩
      (.mk (.call (.mk "range" [("end", .mk (.path "a[b]") false [])])) false [])]⟩ =
        ["a", "b"] := by decide
  obtain ⟨-, hagree⟩ := render_of_agree_on_names hparse (by decide) (by decide)
  refine ⟨_, hparse, hnames, hagree _ _ ?_⟩
  rw [hnames]
  simp [Fields.get?]

/-- A negative number in brackets is a name, but no identifier. -/
theorem render_differs : ¬∀ (text : String) (t : Template) (c c' : Context), parse text = .ok t →
    ¬wholeContext.toList <:+: text.toList → .outside ∉ t.queries →
      (∀ x : String, IsIdentifier x.toList → x.toList <:+: text.toList →
        Fields.get? x c = Fields.get? x c') → t.render c = t.render c' := by
  intro h
  have hparse : parse "\x7b\x7b a[-1] \x7d\x7d" =
      .ok ⟨[.value ⟨false, false⟩ (.mk (.path "a[-1]") false [])]⟩ := by cbv
  have hagree : ∀ (x : String) (v w w' : Value), IsIdentifier x.toList →
      Fields.get? x [("a", v), ("-1", w)] = Fields.get? x [("a", v), ("-1", w')] :=
    fun x v w w' hx => by
      have hne : x ≠ "-1" := by
        rintro rfl
        obtain ⟨c, cs, hchars, hc, -⟩ := hx
        obtain rfl : '-' = c := (List.cons.inj hchars).1
        simp [isNameStart] at hc
      simp [Fields.get?, hne]
  have hfirst : Template.render ⟨[.value ⟨false, false⟩ (.mk (.path "a[-1]") false [])]⟩
      [("a", .array [.number (.whole 10), .number (.whole 20)]), ("-1", .number (.whole 0))] =
        .ok "10" := by cbv
  have hsecond : Template.render ⟨[.value ⟨false, false⟩ (.mk (.path "a[-1]") false [])]⟩
      [("a", .array [.number (.whole 10), .number (.whole 20)]), ("-1", .number (.whole 1))] =
        .ok "20" := by cbv
  have hsame := h _ _ _ _ hparse (by decide) (by decide) fun x hx _ =>
    hagree x (.array [.number (.whole 10), .number (.whole 20)]) (.number (.whole 0))
      (.number (.whole 1)) hx
  rw [hfirst, hsecond] at hsame
  exact absurd (Except.ok.inj hsame) (by decide)

end UserConfigs.Template
