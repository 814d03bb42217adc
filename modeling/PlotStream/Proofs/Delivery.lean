import PlotStream.Parser

/-!
What a source hands over in the end. A source is asked again and again; `Source.Gives` collects
its answers up to the first empty one, or up to the first failure. Two sources that give the same
text may cut it at different places, and that difference is what the reader hides.
-/

namespace PlotStream

/-- The characters that a source gives, and the failure that ends them if one does. -/
inductive Source.Gives : Source → List Char → Option ReadFailure → Prop where
  | ended {source : Source} (h : source.next.1 = .text []) : Gives source [] none
  | broken {source : Source} {cause : ReadFailure} (h : source.next.1 = .failure cause) :
      Gives source [] (some cause)
  | chunk {source : Source} {c : Char} {cs rest : List Char} {ending : Option ReadFailure}
      (h : source.next.1 = .text (c :: cs)) (hrest : Gives source.next.2 rest ending) :
      Gives source (c :: cs ++ rest) ending

namespace Text

theorem pieces_flatten {α : Type} (size : Nat) (xs : List α) : (pieces size xs).flatten = xs := by
  induction xs using pieces.induct size with
  | case1 => simp [pieces]
  | case2 x rest ih =>
      rw [pieces, List.flatten_cons, ih, List.cons_append, List.take_append_drop]

theorem pieces_ne_nil {α : Type} {size : Nat} {xs piece : List α}
    (h : piece ∈ pieces size xs) : piece ≠ [] := by
  induction xs using pieces.induct size with
  | case1 => simp [pieces] at h
  | case2 x rest ih =>
      rw [pieces, List.mem_cons] at h
      rcases h with rfl | hmore
      · simp
      · exact ih hmore

end Text

namespace Source

/-- A reply that is not empty comes in front of what is given after it. -/
theorem Gives.reply {source : Source} {cs rest : List Char} {ending : Option ReadFailure}
    (h : source.next.1 = .text cs) (hne : cs ≠ []) (hrest : source.next.2.Gives rest ending) :
    source.Gives (cs ++ rest) ending := by
  obtain ⟨c, tail, rfl⟩ := List.exists_cons_of_ne_nil hne
  exact .chunk h hrest

/-- Pieces that are not empty are handed over one by one, and then what the replies behind them
give. -/
theorem Gives.pieces {pieces : List (List Char)} {unread : List Reply} {rest : List Char}
    {ending : Option ReadFailure} (hpieces : ∀ piece ∈ pieces, piece ≠ [])
    (hrest : (ofChunks unread).Gives rest ending) :
    (ofChunks (pieces.map .text ++ unread)).Gives (pieces.flatten ++ rest) ending := by
  induction pieces with
  | nil => exact hrest
  | cons piece more ih =>
      have hpiece := hpieces piece (by simp)
      have hmore := ih fun other member => hpieces other (by simp [member])
      rw [List.flatten_cons, List.append_assoc]
      exact Gives.reply rfl hpiece hmore

/-- What stands behind an empty reply is never asked for. -/
theorem gives_ofChunks (pieces : List (List Char)) (unread : List Reply)
    (hpieces : ∀ piece ∈ pieces, piece ≠ [])
    (hunread : unread = [] ∨ unread.head? = some (.text [])) :
    (ofChunks (pieces.map .text ++ unread)).Gives pieces.flatten none := by
  have hended : (ofChunks unread).Gives [] none := by
    apply Gives.ended
    rcases hunread with rfl | hhead
    · rfl
    · obtain ⟨later, rfl⟩ := List.head?_eq_some_iff.mp hhead
      rfl
  simpa using Gives.pieces hpieces hended

theorem gives_pieces (size : Nat) (text : List Char) :
    (ofChunks ((Text.pieces size text).map .text)).Gives text none := by
  have hgives := gives_ofChunks (Text.pieces size text) []
    (fun _ member => Text.pieces_ne_nil member) (Or.inl rfl)
  rwa [Text.pieces_flatten, List.append_nil] at hgives

/-- A text in memory is handed over whatever the size of the requests, as long as a request of
that size is not refused. -/
theorem gives_ofText {size : Nat} (text : List Char) (hsize : size ≤ maxRequest) :
    (ofText size text).Gives text none := by
  have hrefusal : refusalOfSize size = none := by
    simp [refusalOfSize, Nat.not_lt.mpr hsize]
  rw [ofText, ofReplies, hrefusal]
  exact gives_pieces size text

/-- A limit shortens the pieces and keeps the text. -/
theorem gives_ofLimited (size : Nat) {limit : Nat} (text : List Char) (hlimit : 0 < limit) :
    (ofLimited size limit text).Gives text none := by
  rw [ofLimited, if_neg (Nat.ne_of_gt hlimit)]
  exact gives_pieces (min size limit) text

end Source

/-- The inputs from which a reader with requests of the given size gets a text. Texts in memory
and streams refuse requests that are too large; the others do not look at the size. -/
inductive Input.Carries (text : List Char) (size : Int) : Input → Prop where
  | text (hsize : size ≤ maxRequest) : Carries text size (.text text)
  | stream (hsize : size ≤ maxRequest) : Carries text size (.stream text)
  | limited {limit : Nat} (hlimit : 0 < limit) : Carries text size (.limited limit text)
  /-- Nothing passes a limit of zero. -/
  | shut {held : List Char} (htext : text = []) : Carries text size (.limited 0 held)
  | chunks {pieces : List (List Char)} {unread : List Reply}
      (hpieces : ∀ piece ∈ pieces, piece ≠ []) (htext : pieces.flatten = text)
      (hunread : unread = [] ∨ unread.head? = some (.text [])) :
      Carries text size (.chunks (pieces.map .text ++ unread))

/-- A text that arrives in one piece. -/
theorem Input.carries_whole (text : List Char) (size : Int) :
    (Input.chunks [.text text]).Carries text size := by
  cases text with
  | nil =>
      have hnone : ∀ piece ∈ ([] : List (List Char)), piece ≠ [] := by simp
      exact Carries.chunks hnone rfl (Or.inr rfl)
  | cons c cs =>
      have hone : ∀ piece ∈ [c :: cs], piece ≠ [] := by simp
      exact Carries.chunks hone (by simp) (Or.inl rfl)

/-- Every such input has a source for requests of a positive size, and the source gives the text. -/
theorem Input.Carries.source [Encoding.Registry] {input : Input} {text : List Char} {size : Int}
    (h : input.Carries text size) (encoding : Option String) :
    ∃ source, input.source encoding = .ok source ∧ (source size.toNat).Gives text none := by
  cases h with
  | text hsize =>
      exact ⟨_, rfl, Source.gives_ofText text (by omega)⟩
  | stream hsize =>
      exact ⟨_, rfl, Source.gives_ofText text (by omega)⟩
  | limited hlimit =>
      exact ⟨_, rfl, Source.gives_ofLimited _ text hlimit⟩
  | shut htext =>
      subst htext
      exact ⟨_, rfl, .ended rfl⟩
  | chunks hpieces htext hunread =>
      subst htext
      exact ⟨_, rfl, Source.gives_ofChunks _ _ hpieces hunread⟩

end PlotStream
