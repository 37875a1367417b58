/-
  DocSite.Proofs.Html.Reading

  What is printed is read back. A piece of HTML whose names can stand in tags is
  read as the tags of its elements and of the raw markup in it: text, references
  and the values of attributes add none, whatever characters they hold.
-/
import DocSite.Proofs.Html.Escape
import DocSite.Proofs.Html.Markup

namespace DocSite

namespace Markup

open DocSite.Html DocSite.Text

/-! ## Markup between tags -/

/-- Markup that can stand between tags: it yields its tags wherever it is read,
    and leaves the elements open that are open before it. -/
def Reads (markup : List Char) (tags : List Tag) : Prop :=
  ∀ stack log, scan ⟨.text, stack, log⟩ markup = some ⟨.text, stack, log ++ tags⟩

theorem Reads.nil : Reads [] [] := by
  intro stack log
  rw [List.append_nil]
  rfl

theorem Reads.append {a b : List Char} {s t : List Tag} (ha : Reads a s) (hb : Reads b t) :
    Reads (a ++ b) (s ++ t) := by
  intro stack log
  rw [scan_append, ha stack log, Option.bind_some, hb stack, List.append_assoc]

/-- Characters other than `<` add no tag. -/
theorem Reads.of_not_mem {markup : List Char} (h : '<' ∉ markup) : Reads markup [] := by
  induction markup with
  | nil => exact .nil
  | cons c rest ih =>
    rw [List.mem_cons, not_or] at h
    intro stack log
    have hc : step ⟨.text, stack, log⟩ c = some ⟨.text, stack, log⟩ := if_neg (Ne.symm h.1)
    rw [scan_cons, hc, Option.bind_some, ih h.2 stack log]

theorem Reads.read_eq {markup : List Char} {tags : List Tag} (h : Reads markup tags) :
    read? markup = some tags := by
  rw [read?, h [] [], List.nil_append]

/-! ## Reading inside other markup -/

/-- What has been read, after other tags and with more elements open. -/
def State.within (s : State) (stack : List (List Char)) (log : List Tag) : State :=
  ⟨s.mode, s.stack ++ stack, log ++ s.tags⟩

theorem step_within {s t : State} {c : Char} (h : step s c = some t)
    (stack : List (List Char)) (log : List Tag) :
    step (s.within stack log) c = some (t.within stack log) := by
  obtain ⟨mode, open', tags⟩ := s
  -- Only the end of a closing tag looks at the open elements, and at the innermost alone.
  cases mode <;> simp only [State.within, step, leave] at h ⊢ <;> grind

theorem scan_within {s t : State} {markup : List Char} (h : scan s markup = some t)
    (stack : List (List Char)) (log : List Tag) :
    scan (s.within stack log) markup = some (t.within stack log) := by
  induction markup generalizing s with
  | nil =>
    cases h
    rfl
  | cons c rest ih =>
    rw [scan_cons] at h ⊢
    cases hc : step s c with
    | none => rw [hc] at h; cases h
    | some u =>
      rw [hc] at h
      rw [step_within hc stack log, Option.bind_some]
      exact ih h

/-- Markup that can be read by itself can stand between tags. -/
theorem reads_of_read {markup : List Char} {tags : List Tag} (h : read? markup = some tags) :
    Reads markup tags := by
  intro stack log
  rw [read?] at h
  split at h
  · next hscan =>
    cases h
    have hwithin := scan_within hscan stack log
    rw [State.within, State.within, List.append_nil] at hwithin
    exact hwithin
  · cases h

/-! ## Names and values -/

/-- A run of characters of one kind is read as a whole, where reading one of
    them appends it. -/
theorem scan_run {f : List Char → State} {p : Char → Bool}
    (hstep : ∀ before c, p c → step (f before) c = some (f (before ++ [c])))
    (before : List Char) {run : List Char} (hrun : ∀ c ∈ run, p c) :
    scan (f before) run = some (f (before ++ run)) := by
  induction run generalizing before with
  | nil =>
    rw [List.append_nil]
    rfl
  | cons c rest ih =>
    have hrest := ih (before ++ [c]) fun d hd => hrun d (List.mem_cons_of_mem c hd)
    rw [scan_cons, hstep before c (hrun c List.mem_cons_self), Option.bind_some, hrest,
      List.append_assoc, List.singleton_append]

/-- A value ends at the first `"`. -/
theorem scan_value (tag : List Char) (keys stack : List (List Char)) (log : List Tag)
    {value : List Char} (hquote : '"' ∉ value) (htag : '<' ∉ value) :
    scan ⟨.value tag keys, stack, log⟩ value = some ⟨.value tag keys, stack, log⟩ := by
  refine scan_run (f := fun _ => ⟨.value tag keys, stack, log⟩) (p := fun c => c != '"' && c != '<')
    ?_ [] ?_
  · intro before c hc
    rw [Bool.and_eq_true, bne_iff_ne, bne_iff_ne] at hc
    rw [step, if_neg hc.1, if_neg hc.2]
  · intro c hc
    rw [Bool.and_eq_true, bne_iff_ne, bne_iff_ne]
    exact ⟨fun h => hquote (h ▸ hc), fun h => htag (h ▸ hc)⟩

/-! ## Attributes -/

/-- Where an attribute or the end of a tag may follow: after the name of the tag,
    and after a value. -/
inductive Ready (tag : List Char) : Mode → List (List Char) → Prop
  | name : Ready tag (.name tag) []
  | valued (keys : List (List Char)) : Ready tag (.valued tag keys) keys

theorem Ready.step_eq {tag : List Char} {mode : Mode} {keys : List (List Char)}
    (h : Ready tag mode keys) {c : Char} (hc : isTagChar c = false)
    (stack : List (List Char)) (log : List Tag) :
    step ⟨mode, stack, log⟩ c = leave tag keys stack log c := by
  cases h with
  | name => rw [step, if_neg (by simp [hc])]
  | valued keys => rfl

/-- A printed attribute is read as its key. -/
theorem Ready.scan_attribute {tag : List Char} {mode : Mode} {keys : List (List Char)}
    (h : Ready tag mode keys) {key : String} (hkey : IsPlainName key) (hnew : key.toList ∉ keys)
    (value : String) (stack : List (List Char)) (log : List Tag) :
    scan ⟨mode, stack, log⟩ (printAttribute key value).toList
      = some ⟨.valued tag (keys ++ [key.toList]), stack, log⟩ := by
  have hprint : (printAttribute key value).toList
      = ' ' :: (key.toList ++ '=' :: '"' :: (escapeAttribute value.toList ++ ['"'])) := by
    simp [printAttribute]
  have hspace : step ⟨mode, stack, log⟩ ' ' = some ⟨.inside tag keys, stack, log⟩ :=
    h.step_eq (by decide) stack log
  obtain ⟨hne, hchars⟩ := hkey
  -- The first character begins the key, whatever it is; the others are appended to it.
  cases hlist : key.toList with
  | nil => exact absurd hlist hne
  | cons c rest =>
    rw [hlist] at hprint hnew hchars
    have hfirst : step ⟨.inside tag keys, stack, log⟩ c = some ⟨.key tag keys [c], stack, log⟩ :=
      if_pos (hchars c List.mem_cons_self)
    have hrest : scan ⟨.key tag keys [c], stack, log⟩ rest
        = some ⟨.key tag keys ([c] ++ rest), stack, log⟩ :=
      scan_run (f := fun key => ⟨.key tag keys key, stack, log⟩) (p := isKeyChar)
        (fun before d hd => if_pos hd) [c] fun d hd => hchars d (List.mem_cons_of_mem c hd)
    have hequals : step ⟨.key tag keys (c :: rest), stack, log⟩ '='
        = some ⟨.equals tag (keys ++ [c :: rest]), stack, log⟩ := by
      rw [step, if_neg (by decide), if_pos ⟨rfl, hnew⟩]
    have hvalue := scan_value tag (keys ++ [c :: rest]) stack log
      (not_mem_escapeAttribute (.inr (.inr rfl)) value.toList)
      (not_mem_escapeAttribute (.inl rfl) value.toList)
    rw [hprint, scan_cons, hspace, Option.bind_some, List.cons_append, scan_cons, hfirst,
      Option.bind_some, scan_append, hrest, Option.bind_some, List.singleton_append, scan_cons,
      hequals, Option.bind_some, scan_cons]
    have hquote : step ⟨.equals tag (keys ++ [c :: rest]), stack, log⟩ '"'
        = some ⟨.value tag (keys ++ [c :: rest]), stack, log⟩ := rfl
    rw [hquote, Option.bind_some, scan_append, hvalue]
    rfl

/-- The keys of attributes, as they stand in a tag. -/
def keysOf (entries : List (String × String)) : List (List Char) := entries.map (·.1.toList)

/-- Printed attributes are read as their keys, if no key is there twice. -/
theorem Ready.scan_entries {tag : List Char} {mode : Mode} {keys : List (List Char)}
    (h : Ready tag mode keys) {entries : List (String × String)}
    (hplain : ∀ entry ∈ entries, IsPlainName entry.1) (hnew : (keys ++ keysOf entries).Nodup)
    (stack : List (List Char)) (log : List Tag) :
    ∃ mode', Ready tag mode' (keys ++ keysOf entries) ∧
      scan ⟨mode, stack, log⟩ (printEntries entries).toList = some ⟨mode', stack, log⟩ := by
  induction entries generalizing mode keys with
  | nil =>
    refine ⟨mode, ?_, rfl⟩
    rwa [keysOf, List.map_nil, List.append_nil]
  | cons entry rest ih =>
    obtain ⟨key, value⟩ := entry
    have hkeys : keys ++ keysOf ((key, value) :: rest) = keys ++ [key.toList] ++ keysOf rest := by
      rw [keysOf, List.map_cons, List.append_assoc]
      rfl
    rw [hkeys] at hnew ⊢
    -- The key has not been read before, because all keys together are distinct.
    have hfirst := h.scan_attribute (hplain _ List.mem_cons_self)
      (fun hmem => (List.nodup_append.mp (List.nodup_append.mp hnew).1).2.2 _ hmem _
        List.mem_cons_self rfl) value stack log
    obtain ⟨mode', hready, hscan⟩ := ih (.valued (keys ++ [key.toList]))
      (fun e he => hplain e (List.mem_cons_of_mem _ he)) hnew
    refine ⟨mode', hready, ?_⟩
    rw [printEntries, String.toList_append, scan_append, hfirst, Option.bind_some, hscan]

/-! ## Tags -/

/-- The keys of attributes are different ones, also as characters. -/
theorem nodup_keysOf (attributes : Attributes) : (keysOf attributes.entries).Nodup := by
  have hkeys : keysOf attributes.entries = (attributes.entries.map Prod.fst).map String.toList := by
    rw [List.map_map]
    rfl
  rw [hkeys]
  exact List.Pairwise.map _ (fun a b hne h => hne (String.toList_injective h))
    attributes.nodup_keys

/-- Attributes whose keys can stand in a tag. -/
def PlainKeys (attributes : Attributes) : Prop := ∀ entry ∈ attributes.entries, IsPlainName entry.1

instance (attributes : Attributes) : Decidable (PlainKeys attributes) :=
  inferInstanceAs (Decidable (∀ _ ∈ _, _))

theorem isElementName_of_mem_voidTags {tag : List Char} (h : tag ∈ voidTags) :
    IsElementName tag := by
  have hall : ∀ name ∈ voidTags, IsElementName name := by decide
  exact hall tag h

/-- The name and the attributes of a tag are read up to the place where the tag
    may end. -/
theorem scan_tag {tag : String} {attributes : Attributes} (htag : IsElementName tag.toList)
    (hkeys : PlainKeys attributes) (stack : List (List Char)) (log : List Tag) :
    ∃ mode, Ready tag.toList mode (keysOf attributes.entries) ∧
      scan ⟨.text, stack, log⟩ ("<" ++ tag ++ printEntries attributes.entries).toList
        = some ⟨mode, stack, log⟩ := by
  obtain ⟨hhead, hchars⟩ := htag
  cases hlist : tag.toList with
  | nil =>
    rw [hlist] at hhead
    cases hhead
  | cons c rest =>
    rw [hlist] at hhead hchars
    have hopen : step ⟨.opened, stack, log⟩ c = some ⟨.name [c], stack, log⟩ := by
      have halpha : c.isAlpha = true := hhead
      have hslash : c ≠ '/' := by
        rintro rfl
        exact absurd halpha (by decide)
      rw [step, if_neg hslash, if_pos halpha]
    have hname : scan ⟨.name [c], stack, log⟩ rest = some ⟨.name ([c] ++ rest), stack, log⟩ :=
      scan_run (f := fun name => ⟨.name name, stack, log⟩) (p := isTagChar)
        (fun before d hd => if_pos hd) [c] fun d hd => hchars d (List.mem_cons_of_mem c hd)
    have hready : Ready (c :: rest) (.name (c :: rest)) [] := .name
    obtain ⟨mode, hready, hentries⟩ := hready.scan_entries hkeys (nodup_keysOf attributes) stack log
    refine ⟨mode, hready, ?_⟩
    -- `<`, the first character of the name, its other characters, and the attributes.
    have hless : step ⟨.text, stack, log⟩ '<' = some ⟨.opened, stack, log⟩ := rfl
    rw [String.toList_append, String.toList_append, hlist, scan_append, scan_append,
      show "<".toList = ['<'] from rfl, scan_cons, hless, Option.bind_some]
    rw [show scan ⟨.opened, stack, log⟩ [] = some ⟨.opened, stack, log⟩ from rfl,
      Option.bind_some, scan_cons, hopen, Option.bind_some, hname, Option.bind_some,
      List.singleton_append, hentries]

theorem scan_openTag {tag : String} {attributes : Attributes} (htag : IsElementName tag.toList)
    (hkeys : PlainKeys attributes) (stack : List (List Char)) (log : List Tag) :
    scan ⟨.text, stack, log⟩ (openTag tag attributes).toList
      = some ⟨.text, tag.toList :: stack,
          log ++ [.opening tag.toList (keysOf attributes.entries)]⟩ := by
  obtain ⟨mode, hready, hscan⟩ := scan_tag htag hkeys stack log
  rw [openTag, String.toList_append, scan_append, hscan, Option.bind_some,
    show ">".toList = ['>'] from rfl, scan_cons, hready.step_eq (by decide)]
  rfl

theorem scan_closeTag {tag : String} (htag : IsElementName tag.toList)
    (stack : List (List Char)) (log : List Tag) :
    scan ⟨.text, tag.toList :: stack, log⟩ (closeTag tag).toList
      = some ⟨.text, stack, log ++ [.closing tag.toList]⟩ := by
  have hname : scan ⟨.ending [], tag.toList :: stack, log⟩ tag.toList
      = some ⟨.ending ([] ++ tag.toList), tag.toList :: stack, log⟩ :=
    scan_run (f := fun name => ⟨.ending name, tag.toList :: stack, log⟩) (p := isTagChar)
      (fun before c hc => if_pos hc) [] htag.2
  have hstart : scan ⟨.text, tag.toList :: stack, log⟩ "</".toList
      = some ⟨.ending [], tag.toList :: stack, log⟩ := rfl
  rw [List.nil_append] at hname
  rw [closeTag, String.toList_append, String.toList_append, scan_append, scan_append, hstart,
    Option.bind_some, hname, Option.bind_some, show ">".toList = ['>'] from rfl, scan_cons, step,
    if_neg (by decide), if_pos ⟨rfl, rfl⟩]
  rfl

/-- An element is read as its tags around those of its content. -/
theorem Reads.element {tag : String} {attributes : Attributes} {body : List Char}
    {tags : List Tag} (htag : IsElementName tag.toList) (hkeys : PlainKeys attributes)
    (hbody : Reads body tags) :
    Reads ((openTag tag attributes).toList ++ body ++ (closeTag tag).toList)
      (.opening tag.toList (keysOf attributes.entries) :: (tags ++ [.closing tag.toList])) := by
  intro stack log
  rw [scan_append, scan_append, scan_openTag htag hkeys, Option.bind_some, hbody,
    Option.bind_some, scan_closeTag htag]
  simp

theorem Reads.void {tag : String} {attributes : Attributes} (htag : tag.toList ∈ voidTags)
    (hkeys : PlainKeys attributes) :
    Reads ("<" ++ tag ++ printEntries attributes.entries ++ " />").toList
      [.void tag.toList (keysOf attributes.entries)] := by
  intro stack log
  obtain ⟨mode, hready, hscan⟩ := scan_tag (isElementName_of_mem_voidTags htag) hkeys stack log
  rw [String.toList_append, scan_append, hscan, Option.bind_some,
    show " />".toList = [' ', '/', '>'] from rfl, scan_cons, hready.step_eq (by decide), leave,
    if_pos (by decide), Option.bind_some, scan_cons, step, if_neg (by decide), leave,
    if_neg (by decide), if_pos rfl, Option.bind_some, scan_cons, step, if_pos ⟨rfl, htag⟩]
  rfl

end Markup

/-! ## Trees -/

namespace Html

open Markup

theorem printAll_append (a b : List Html) : printAll (a ++ b) = printAll a ++ printAll b := by
  induction a with
  | nil => rw [List.nil_append, printAll, String.empty_append]
  | cons piece rest ih => rw [List.cons_append, printAll, printAll, ih, String.append_assoc]

theorem printAll_element (tag : String) (attributes : Attributes) (body : List Html) :
    printAll [.element tag attributes body]
      = openTag tag attributes ++ printAll body ++ closeTag tag := by
  rw [printAll, print, printAll, String.append_empty]

theorem printEntries_append (a b : List (String × String)) :
    printEntries (a ++ b) = printEntries a ++ printEntries b := by
  induction a with
  | nil => rw [List.nil_append, printEntries, String.empty_append]
  | cons entry rest ih =>
    obtain ⟨key, value⟩ := entry
    rw [List.cons_append, printEntries, printEntries, ih, String.append_assoc]

mutual

/-- The tags of a piece of HTML. -/
def tags : Html → List Tag
  | .text _ | .reference _ => []
  | .raw s => (read? s.toList).getD []
  | .element tag attributes body =>
    .opening tag.toList (keysOf attributes.entries) :: (tagsAll body ++ [.closing tag.toList])
  | .void tag attributes => [.void tag.toList (keysOf attributes.entries)]

/-- The tags of pieces of HTML one after the other. -/
def tagsAll : List Html → List Tag
  | [] => []
  | piece :: rest => piece.tags ++ tagsAll rest

end

mutual

/-- HTML of which every name can stand in a tag, and of which what is raw is
    well-formed and allowed. -/
def Sound (allowed : String → Prop) : Html → Prop
  | .text _ => True
  | .raw s => WellFormed s.toList ∧ allowed s
  | .reference name => '<' ∉ name.toList
  | .element tag attributes body =>
    IsElementName tag.toList ∧ PlainKeys attributes ∧ SoundAll allowed body
  | .void tag attributes => tag.toList ∈ voidTags ∧ PlainKeys attributes

/-- Sound pieces of HTML. -/
def SoundAll (allowed : String → Prop) : List Html → Prop
  | [] => True
  | piece :: rest => piece.Sound allowed ∧ SoundAll allowed rest

end

@[simp] theorem soundAll_append {allowed : String → Prop} {a b : List Html} :
    SoundAll allowed (a ++ b) ↔ SoundAll allowed a ∧ SoundAll allowed b := by
  induction a with
  | nil => simp [SoundAll]
  | cons piece rest ih => rw [List.cons_append, SoundAll, SoundAll, ih, and_assoc]

mutual

/-- A sound piece of HTML is read as its tags. -/
theorem Sound.reads {allowed : String → Prop} :
    ∀ {html : Html}, html.Sound allowed → Reads html.print.toList html.tags
  | .text s, _ => by
    rw [print, String.toList_ofList]
    exact .of_not_mem (not_mem_escapeText (.inl rfl) s.toList)
  | .raw s, h => by
    rw [Sound] at h
    obtain ⟨tags, htags⟩ := Option.isSome_iff_exists.mp h.1
    rw [print, Html.tags, htags]
    exact reads_of_read htags
  | .reference name, h => by
    rw [Sound] at h
    rw [print, Html.tags]
    refine .of_not_mem ?_
    rw [String.toList_append, String.toList_append, List.mem_append, List.mem_append]
    rintro ((hmem | hmem) | hmem)
    · exact absurd hmem (by decide)
    · exact h hmem
    · exact absurd hmem (by decide)
  | .element tag attributes body, h => by
    rw [Sound] at h
    obtain ⟨htag, hkeys, hbody⟩ := h
    rw [print, Html.tags, String.toList_append, String.toList_append]
    exact .element htag hkeys hbody.reads
  | .void tag attributes, h => by
    rw [Sound] at h
    rw [print, Html.tags]
    exact .void h.1 h.2

/-- Sound HTML is read as its tags. -/
theorem SoundAll.reads {allowed : String → Prop} :
    ∀ {html : List Html}, SoundAll allowed html → Reads (printAll html).toList (tagsAll html)
  | [], _ => .nil
  | piece :: rest, h => by
    rw [SoundAll] at h
    rw [printAll, tagsAll, String.toList_append]
    exact h.1.reads.append h.2.reads

end

end Html

end DocSite
