import CollectionTypes.Proofs.Generation.Bindings
import CollectionTypes.Proofs.Generation.Members
import CollectionTypes.Proofs.Generation.Outlined
import CollectionTypes.Proofs.Text.TypeNames

/-!
# Declared names that are identifiers

A declaration has the type name of its collection, which leaves out the mark of
the host's collections (`Making.typeName_of_declaration`). Nothing makes sure that
this is an identifier. Of the collections with plain names, those whose declared
name is one are told apart by their names alone, and the type that lists the
collections always has an identifier for its name, unless another one was chosen
(`declared_names_are_identifiers_iff`).
-/

namespace CollectionTypes

namespace Making

variable {s : Settings} {schema records : Value} (m : Making s schema records)

/-- **A declaration has the type name of its collection**, without the mark. -/
theorem typeName_of_declaration {c : Collection} {b : Block} (h : (c, b) ∈ m.declarations) :
    ∃ name, c.name = .text name ∧ b.typeName = Naming.unmarkedTypeName s.systemPrefix name := by
  obtain ⟨name, hname, htypeName, -⟩ := (m.describes_of_declaration h).named
  obtain ⟨key, hc, -⟩ := m.find?_of_declaration h
  have hmarked := (m.keyed key c hc).isMarked
  rw [hname, Name.value, Naming.isMarkedOf_text] at hmarked
  refine ⟨name, hname, ?_⟩
  rw [htypeName, Collection.declaredName, ← Except.ok.inj hmarked]
  split
  · rfl
  · next hplain =>
    have hplain := Bool.eq_false_iff.mpr hplain
    rw [Naming.unmarkedTypeName, Naming.unmarked_of_isMarked_eq_false hplain]

/-- **The declaration of a plain name** declares an identifier, exactly if the first letter
or digit is a letter, and not all that is there is the ending of a plural. -/
theorem isIdentifier_typeName_iff {c : Collection} {b : Block} (h : (c, b) ∈ m.declarations) :
    ∃ name, c.name = .text name
      ∧ (Naming.IsPlain (Naming.unmarked s.systemPrefix name).toList →
          (Naming.isIdentifier b.typeName.toList = true
            ↔ Naming.firstIsLetter (Naming.unmarked s.systemPrefix name).toList = true
              ∧ ¬ Naming.IsBareEnding (Naming.unmarked s.systemPrefix name).toList)) := by
  obtain ⟨name, hname, htypeName⟩ := m.typeName_of_declaration h
  refine ⟨name, hname, fun hplain => ?_⟩
  rw [htypeName, Naming.unmarkedTypeName]
  exact Naming.isIdentifier_typeName hplain

end Making

/-- **Which declared names are identifiers.** By default the type that lists the
collections has one for its name. A collection whose name, without the mark, is plain
has one exactly if the first letter or digit of that is a letter, and not all that is
there is the ending of a plural. -/
theorem declared_names_are_identifiers_iff {noted : Bool} {schema records : Value}
    {options : Options} {text : String} (hs : options.settings = .ok {})
    (h : (buildDocument noted schema options records).text = .ok text) :
    ∃ m : Making {} schema records, text = m.document.text m.layout
      ∧ Naming.isIdentifier m.document.rollup.typeName.toList = true
      ∧ ∀ c b, (c, b) ∈ m.declarations →
          ∃ name, c.name = .text name
            ∧ (Naming.IsPlain (Naming.unmarked "directus_" name).toList →
                (Naming.isIdentifier b.typeName.toList = true
                  ↔ Naming.firstIsLetter (Naming.unmarked "directus_" name).toList = true
                    ∧ ¬ Naming.IsBareEnding (Naming.unmarked "directus_" name).toList)) := by
  obtain ⟨m, hm⟩ := (buildDocument_ok_iff hs).mp h
  have hrollup : m.document.rollup.typeName = "CustomDirectusTypes" := rfl
  refine ⟨m, hm, ?_, fun c b hb => m.isIdentifier_typeName_iff hb⟩
  rw [hrollup]
  decide +kernel

/-- The articles of a blog are declared under an identifier. -/
theorem blog_declares_identifier :
    Options.absent.settings = .ok {}
      ∧ ∃ text, (buildDocument false Outline.blog.overview .absent .null).text = .ok text
        ∧ ∃ m : Making {} Outline.blog.overview .null, text = m.document.text m.layout
          ∧ ∀ c b, (c, b) ∈ m.declarations → c.name = .text "articles" →
              Naming.isIdentifier b.typeName.toList = true := by
  have hs : Options.absent.settings = .ok {} := rfl
  obtain ⟨text, htext⟩ := Outline.blog.exists_text false hs rfl
  obtain ⟨m, hm, -, hdeclared⟩ := declared_names_are_identifiers_iff hs htext
  refine ⟨hs, text, htext, m, hm, fun c b hb hc => ?_⟩
  obtain ⟨name, hname, hiff⟩ := hdeclared c b hb
  obtain rfl : name = "articles" := Name.text.inj (hname.symm.trans hc)
  have hchars : (Naming.unmarked "directus_" "articles").toList = "articles".toList := by
    decide +kernel
  rw [hchars] at hiff
  exact (hiff (by decide +kernel)).mpr
    ⟨by decide +kernel, Naming.not_isBareEnding (a := []) (by decide) (by decide +kernel)⟩

/-! ## Names that are none -/

/-- **Plain names with a letter or digit** can be declared under what is no identifier. -/
theorem numbered_declares_no_identifier :
    Options.absent.settings = .ok {}
      ∧ (∀ c ∈ Outline.numbered.collections, Naming.IsPlain c.name.toList
          ∧ c.name.toList.any Char.isAlphanum = true)
      ∧ ∃ text, (buildDocument false Outline.numbered.overview .absent .null).text = .ok text
        ∧ ∃ m : Making {} Outline.numbered.overview .null, text = m.document.text m.layout
          ∧ m.blockNames.Perm ["2fa", ""]
          ∧ ∀ typeName ∈ m.blockNames, Naming.isIdentifier typeName.toList = false := by
  have hs : Options.absent.settings = .ok {} := rfl
  obtain ⟨text, htext⟩ := Outline.numbered.exists_text false hs rfl
  obtain ⟨m, hm⟩ := (buildDocument_ok_iff hs).mp htext
  have hnames : m.blockNames.Perm ["2fa", ""] := by
    have hchecked : (Making.viewsOf {} Outline.numbered.overview .null).toOption.all (fun r =>
        decide (r.2.map View.typeName = ["2fa", ""])) = true := by
      decide +kernel
    rw [m.viewsOf_eq] at hchecked
    have hviews : m.views.map View.typeName = ["2fa", ""] := of_decide_eq_true hchecked
    exact hviews ▸ m.blockNames_perm
  have hno : ∀ typeName ∈ ["2fa", ""], Naming.isIdentifier typeName.toList = false := by
    decide +kernel
  exact ⟨hs, by decide +kernel, text, htext, m, hm, hnames,
    fun typeName h => hno typeName (hnames.mem_iff.mp h)⟩

end CollectionTypes
