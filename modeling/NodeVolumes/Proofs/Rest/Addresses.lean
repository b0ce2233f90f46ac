import NodeVolumes.Proofs.Http.Segments
import NodeVolumes.Rest.Client

/-!
# What resources are addressed

The address of a resource is that of its service with more names in its path.  These are the names
that were asked for, and no other names have that address, exactly if each of them stands for itself
in a URL (`resourceUrl_names_iff`).  Identifiers that are dots do not: what is asked for then is the
resource above (`resourceUrl_dots_above`).
-/

namespace NodeVolumes.Rest

open Http (Url UrlPath)

variable {base : String} {endpoint url : Url} {own given : List String}

theorem exists_resourceUrl (hbase : Url.parse base = .ok endpoint)
    (hpath : endpoint.path = .segments own) (given : List String) :
    ∃ url, resourceUrl base given = .ok url ∧ endpoint.extend? given = some url ∧
      url = { endpoint with path := url.path } := by
  unfold resourceUrl
  rw [hbase]
  dsimp only
  rw [Url.extend?_segments hpath]
  exact ⟨_, rfl, rfl, rfl⟩

theorem names_resourceUrl_iff (hbase : Url.parse base = .ok endpoint)
    (hpath : endpoint.path = .segments own) (hgiven : ∀ s ∈ given, s ≠ "")
    (h : resourceUrl base given = .ok url) :
    url.path.names = (UrlPath.segments (Url.withoutSlash own)).names ++ given ↔
      ∀ s ∈ given, Url.IsPlain s := by
  obtain ⟨_, hurl, hextend, -⟩ := exists_resourceUrl hbase hpath given
  cases hurl.symm.trans h
  exact Url.names_extend?_iff hpath (Url.isCut_of_parse hbase hpath) hgiven hextend

/-- Dots between the names of a resource are passed over. -/
theorem resourceUrl_dots (base : String) {dots : String} (hdots : dots = "." ∨ dots = "..")
    (front back : List String) :
    resourceUrl base (front ++ dots :: back) = resourceUrl base (front ++ back) := by
  have hpush (special : Bool) (segments : List String) :
      Url.push special segments dots = segments := if_pos hdots
  have hextend (url : Url) : url.extend? (front ++ dots :: back) = url.extend? (front ++ back) := by
    unfold Url.extend?
    simp only [List.foldl_append, List.foldl_cons, hpush]
  unfold resourceUrl
  simp only [hextend]

/--
A resource behind an endpoint has the address of the endpoint with another path: one that leads
along the names of the endpoint and then along those that were given, exactly if all of these are
plain.  So there is one resource for each list of plain names.  Dots among the names that were given
are passed over.
-/
theorem resourceUrl_names_iff (hbase : Url.parse base = .ok endpoint)
    (hpath : endpoint.path = .segments own) (hgiven : ∀ s ∈ given, s ≠ "") :
    ∃ url, resourceUrl base given = .ok url ∧ url = { endpoint with path := url.path } ∧
      (url.path.names = (UrlPath.segments (Url.withoutSlash own)).names ++ given ↔
        ∀ s ∈ given, Url.IsPlain s) ∧
      ((∀ s ∈ given, Url.IsPlain s) →
        ∀ (other : List String) (reached : Url), (∀ s ∈ other, s ≠ "" ∧ Url.IsPlain s) →
          resourceUrl base other = .ok reached → reached.path.text = url.path.text →
          other = given) ∧
      ∀ front dots back, dots = "." ∨ dots = ".." → given = front ++ dots :: back →
        resourceUrl base (front ++ back) = .ok url := by
  obtain ⟨url, hurl, -, hrest⟩ := exists_resourceUrl hbase hpath given
  have hnames := names_resourceUrl_iff hbase hpath hgiven hurl
  refine ⟨url, hurl, hrest, hnames, fun hplain other reached hother hreached htext => ?_, ?_⟩
  · have hothers := (names_resourceUrl_iff hbase hpath (fun s hs => (hother s hs).1) hreached).mpr
      fun s hs => (hother s hs).2
    have hsame : reached.path.names = url.path.names := by
      rw [UrlPath.names, UrlPath.names, htext]
    rw [hothers, hnames.mpr hplain] at hsame
    exact List.append_cancel_left hsame
  · rintro front dots back hdots rfl
    rw [← resourceUrl_dots base hdots]
    exact hurl

/-! ## A compute service with a version in its path -/

def versionedEndpoint : Url :=
  { scheme := "http", authority := some { host := "nova" }, path := .segments ["v2.1", ""] }

theorem parse_versionedEndpoint : Url.parse "http://nova/v2.1/" = .ok versionedEndpoint := by
  decide +kernel

/-- Separators, percent notation and characters beyond ASCII stay in the name they are in. -/
theorem resourceUrl_names_hard :
    ∃ url, resourceUrl "http://nova/v2.1/" ["servers", "../a?b#c%2F\\é"] = .ok url ∧
      url.query = none ∧ url.fragment = none ∧
      url.path.names = ["v2.1", "servers", "../a?b#c%2F\\é"] ∧
      resourceUrl "http://nova/v2.1/" ["servers", ".."] =
        resourceUrl "http://nova/v2.1/" ["servers"] := by
  have hplain : ∀ s ∈ ["servers", "../a?b#c%2F\\é"], Url.IsPlain s := by
    decide +kernel
  obtain ⟨url, hurl, hrest, hnames, -, -⟩ :=
    @resourceUrl_names_iff _ _ _ ["servers", "../a?b#c%2F\\é"] parse_versionedEndpoint rfl
      (by decide)
  obtain ⟨above, habove, -, -, -, hdots⟩ :=
    @resourceUrl_names_iff _ _ _ ["servers", ".."] parse_versionedEndpoint rfl (by decide)
  refine ⟨url, hurl, ?_, ?_, (hnames.mpr hplain).trans ?_, ?_⟩
  · rw [hrest]
    rfl
  · rw [hrest]
    rfl
  · decide +kernel
  · exact habove.trans (hdots ["servers"] ".." [] (.inr rfl) rfl).symm

/-- Not every list of names is the one its address leads along.  An attachment with the identifier
`..` has the address of all attachments, one of dots around a tab that of what is above these, and
two identifiers of which one has a tab more have one address. -/
theorem resourceUrl_dots_above :
    (¬∀ (base : String) (endpoint : Url) (own given : List String),
      Url.parse base = .ok endpoint → endpoint.path = .segments own → (∀ s ∈ given, s ≠ "") →
        ∃ url, resourceUrl base given = .ok url ∧
          url.path.names = (UrlPath.segments (Url.withoutSlash own)).names ++ given) ∧
      let attachment id :=
        resourceUrl "http://nova/v2.1/" ["servers", "vm_1", "os-volume_attachments", id]
      attachment ".." =
        resourceUrl "http://nova/v2.1/" ["servers", "vm_1", "os-volume_attachments"] ∧
      (attachment ".\t.").map (fun url => url.path.names) =
        .ok ["v2.1", "servers", "vm_1", ""] ∧
      attachment "vol\t_1" = attachment "vol_1" := by
  refine ⟨fun h => ?_, ?_, ?_, ?_⟩
  · obtain ⟨url, hurl, hnames⟩ :=
      h "http://nova/v2.1/" versionedEndpoint _ [".."] parse_versionedEndpoint rfl (by decide)
    have hplain := (names_resourceUrl_iff parse_versionedEndpoint rfl (by decide) hurl).mp hnames
    exact (hplain ".." List.mem_cons_self).notAbove rfl
  · exact resourceUrl_dots _ (.inr rfl) ["servers", "vm_1", "os-volume_attachments"] []
  · decide +kernel
  · decide +kernel

end NodeVolumes.Rest
