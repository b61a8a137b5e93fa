import SceneScript.Proofs.Faithful
import SceneScript.Proofs.ForestScript

/-!
# Workspaces that are parsed

What is known of every workspace that is made from a text, with the shapes of any registry: nothing
is reported about the text, the workspace is well linked, it holds a forest, and it has a script,
which is the script of the forest.
-/

namespace SceneScript

theorem Workspace.WellLinked.hasOutputs {registry : Registry} {w : Workspace}
    (hw : w.WellLinked registry.shape?) (options : ScriptOptions) :
    ({ workspace := w, registry, options } : Program).HasOutputs := by
  intro r b hb
  obtain ⟨shape, hkind, hshape⟩ := hw.has_shape r b hb
  have hkind : registry.shape? b.node.kind = some shape := hkind
  rw [Node.output?, hkind, hshape.output, Option.bind_some]

theorem Document.link_diagnostics_of_grammatical {catalog : Catalog} {document : Document}
    (h : document.Grammatical catalog) : (link catalog document).diagnostics = {} := by
  rw [link_eq]
  have hclean := Linking.clean_linkDocument_iff.2 ⟨h, rfl, rfl⟩
  rw [congrArg Prod.snd hclean.1]

theorem Document.map_id_declared {catalog : Catalog} {document : Document}
    (h : document.Grammatical catalog) :
    (document.workspace catalog).declared.map Variable.id =
      document.declarations.map Declaration.id := by
  have hids := congrArg (List.map Prod.fst) (map_toVariable? h.known_tags)
  rwa [List.map_map, List.map_map] at hids

theorem Document.map_name_declared {catalog : Catalog} {document : Document}
    (h : document.Grammatical catalog) :
    (document.workspace catalog).declared.map Variable.name =
      document.declarations.map Declaration.name := by
  have hnames := congrArg (List.map fun v => v.2.1) (map_toVariable? h.known_tags)
  rwa [List.map_map, List.map_map] at hnames

section Parsed

variable {registry : Registry} {text : String} {w : Workspace}
  (h : (parse registry.shape? text).workspace = some w)

include h

theorem exists_document_of_parse : ∃ document, Document.ofText text = .ok document ∧
    document.Grammatical registry.shape? ∧
    (∀ chain ∈ document.chains, ∃ draft, Chain.Stored (some draft) chain) ∧
    w = document.workspace registry.shape? := by
  obtain ⟨document, hdocument, hgrammar, hw⟩ := parse_workspace_eq_some_iff.1 h
  exact ⟨document, hdocument, hgrammar, Document.stored_of_ofText hdocument, hw⟩

/-- Nothing is reported about a text that has a workspace. -/
theorem diagnostics_of_parse : (parse registry.shape? text).diagnostics = {} := by
  obtain ⟨document, hdocument, hgrammar, -⟩ := exists_document_of_parse h
  rw [parse_of_ok hdocument]
  exact Document.link_diagnostics_of_grammatical hgrammar

theorem wellLinked_of_parse : w.WellLinked registry.shape? := by
  obtain ⟨document, -, hgrammar, hstored, rfl⟩ := exists_document_of_parse h
  exact Document.wellLinked_workspace (fun _ _ => Registry.kind_of_shape?) hgrammar hstored

/-- No two variables have the same id. -/
theorem nodup_declared_of_parse : (w.declared.map Variable.id).Nodup := by
  obtain ⟨document, -, hgrammar, -, rfl⟩ := exists_document_of_parse h
  rw [Document.map_id_declared hgrammar]
  exact hgrammar.distinct_variable_ids

theorem exists_forest_of_parse : ∃ forest, w.forest? = some forest := by
  obtain ⟨document, -, hgrammar, hstored, rfl⟩ := exists_document_of_parse h
  exact ⟨_, Document.forest?_workspace (fun _ _ => Registry.kind_of_shape?) hgrammar hstored⟩

/-- A workspace that is parsed has a script. -/
theorem exists_script_of_parse (options : ScriptOptions) :
    ∃ script, ({ workspace := w, registry, options } : Program).script = .ok script := by
  obtain ⟨forest, hforest⟩ := exists_forest_of_parse h
  have houtputs := (wellLinked_of_parse h).hasOutputs options
  exact ⟨_, Program.script_eq_forestScript houtputs hforest⟩

end Parsed

end SceneScript
