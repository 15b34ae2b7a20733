import TorrentRemote.Daemon.Conversion
import TorrentRemote.Proofs.Torrent.Relabelling

/-!
# The site of a torrent

The first tag that begins with `site:` records from which site a torrent came, so tags behind it and
tags of other kinds do not matter.  A daemon that keeps the tags as labels gives back all but those
that are empty or look like the label of a category.  None of these records a site, so the site is
found in the labels as it was in the tags.

## Main definitions

* `Torrent.NamesSite` : a tag that records a site.
* `Torrent.HasSite` : the site that some tags record.

## Main results

* `Torrent.hasSite_iff` : the site that is found is the one that the tags record.
* `Torrent.siteOfTags_split_build` : the site that is found in labels.
* `Torrent.site_survives_labels` : both for torrents and for the records of a daemon.
-/

namespace TorrentRemote.Torrent

variable {tag : String} {tags : List String}

/-- A tag that records a site, if only the empty one. -/
def NamesSite (tag : String) : Prop := sitePrefix.toList <+: tag.toList

instance (tag : String) : Decidable (NamesSite tag) := inferInstanceAs (Decidable (_ <+: _))

/-- The site that some tags record: what follows `site:` in the first tag that begins so, even if
nothing follows or another `site:` does. -/
inductive HasSite : List String → Option String → Prop
  | none {tags : List String} (htags : ∀ tag ∈ tags, ¬ NamesSite tag) : HasSite tags none
  | first (before : List String) (site : String) (after : List String)
      (hbefore : ∀ tag ∈ before, ¬ NamesSite tag) :
      HasSite (before ++ siteTag site :: after) (some site)

theorem hasSite_iff {site? : Option String} : HasSite tags site? ↔ siteOfTags tags = site? := by
  constructor
  · rintro (htags | ⟨before, site, after, hbefore⟩)
    · exact List.findSome?_eq_none_iff.2 fun tag htag =>
        Lookup.rest?_eq_none_iff.2 (htags tag htag)
    · exact List.findSome?_eq_some_iff.2 ⟨before, siteTag site, after, rfl,
        Lookup.rest?_eq_some_iff.2 rfl, fun tag htag =>
          Lookup.rest?_eq_none_iff.2 (hbefore tag htag)⟩
  · intro h
    cases site? with
    | none =>
      exact .none fun tag htag =>
        Lookup.rest?_eq_none_iff.1 (List.findSome?_eq_none_iff.1 h tag htag)
    | some site =>
      obtain ⟨before, tag, after, rfl, htag, hbefore⟩ := List.findSome?_eq_some_iff.1 h
      obtain rfl := Lookup.rest?_eq_some_iff.1 htag
      exact .first before site after fun tag htag => Lookup.rest?_eq_none_iff.1 (hbefore tag htag)

/-! ### Tags that are not kept -/

/-- A tag that records a site is not empty and does not look like the label of a category. -/
theorem ne_empty_and_isTag_of_namesSite (h : NamesSite tag) : tag ≠ "" ∧ Labels.IsTag tag := by
  obtain ⟨rest, hrest⟩ := h
  constructor
  · rintro rfl
    exact absurd hrest (by simp [sitePrefix])
  · rintro ⟨other, hother⟩
    exact absurd (hrest.trans hother.symm) (by simp [sitePrefix, Labels.categoryPrefix])

/-- The tags that are found again record the same site. -/
theorem siteOfTags_split_build (category : String) (tags : List String) :
    siteOfTags (Labels.split (Labels.build category tags)).2 = siteOfTags tags := by
  rw [Labels.split_build, siteOfTags, Lookup.findSome?_filter_of_eq_none, siteOfTags]
  intro tag _ hlost
  exact Lookup.rest?_eq_none_iff.2 fun hnames =>
    hlost (decide_eq_true (ne_empty_and_isTag_of_namesSite hnames))

/-- **The site survives the labels.**  A torrent whose tags were kept as labels, beside any
category, has the site that was recorded before, and so has the torrent that is made of the daemon's
record of these labels.  If the tag of a site stands before all others that begin with `site:`, it
is exactly this site. -/
theorem site_survives_labels (torrent stored : Torrent) (category : String)
    (hstored : stored.tags = (Labels.split (Labels.build category torrent.tags)).2) :
    stored.site? = torrent.site? ∧ HasSite torrent.tags stored.site? ∧
    (∀ record : Daemon.TorrentRecord, record.labels = Labels.build category torrent.tags →
      record.toTorrent.site? = torrent.site?) ∧
    ∀ before site after, torrent.tags = before ++ siteTag site :: after →
      (∀ tag ∈ before, ¬ NamesSite tag) → torrent.site? = some site ∧ stored.site? = some site := by
  have hsame : stored.site? = torrent.site? := by
    rw [site?, hstored, siteOfTags_split_build, site?]
  refine ⟨hsame, hsame ▸ hasSite_iff.2 rfl, fun record hlabels => ?_, ?_⟩
  · have htags : record.toTorrent.tags = (Labels.split record.labels).2 := rfl
    rw [site?, htags, hlabels, siteOfTags_split_build, site?]
  · intro before site after htags hbefore
    have hsite : torrent.site? = some site := by
      rw [site?, htags]
      exact hasSite_iff.1 (.first before site after hbefore)
    exact ⟨hsite, hsame.trans hsite⟩

/-- A torrent with an empty tag, a tag that looks like the label of a category, and two sites. -/
def twiceTagged : Torrent :=
  ⟨"", "", "", .paused, 0, 0, "", ["", "category:films", "site:site:hd", "site:other"],
    0, 0, 0, 0, 0, 0, 0, 0, 0, 0, .empty⟩

/-- The tags before the site are lost, but the site is found, with the second `site:` as a part of
it. -/
theorem site_survives_labels_twiceTagged :
    (Labels.split (Labels.build "" twiceTagged.tags)).2 = ["site:site:hd", "site:other"] ∧
    twiceTagged.site? = some "site:hd" ∧
    { twiceTagged with tags := ["site:site:hd", "site:other"] }.site? = some "site:hd" := by
  have hstored : (Labels.split (Labels.build "" twiceTagged.tags)).2 =
      ["site:site:hd", "site:other"] := by decide +kernel
  obtain ⟨-, -, -, hfirst⟩ := site_survives_labels twiceTagged
    { twiceTagged with tags := ["site:site:hd", "site:other"] } "" hstored.symm
  exact ⟨hstored, hfirst ["", "category:films"] "site:hd" ["site:other"] (by decide +kernel)
    (by decide)⟩

end TorrentRemote.Torrent
