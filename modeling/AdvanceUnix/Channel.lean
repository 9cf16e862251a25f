namespace Channel

/-!
# First-in first-out channels with their history

A channel remembers everything that was ever put into it and taken out of
it.  That nothing is lost, duplicated or reordered in between is part of the
type: a value without the conservation proof cannot be built.
-/

/-- A channel's contents between what went in and what came out. -/
structure Fifo (α : Type) where
  accepted : List α
  delivered : List α
  contents : List α
  conserved : delivered ++ contents = accepted

namespace Fifo

variable {α : Type}

/-- A new channel. -/
def empty : Fifo α where
  accepted := []
  delivered := []
  contents := []
  conserved := rfl

/-- Append items at the end. -/
def put (channel : Fifo α) (items : List α) : Fifo α where
  accepted := channel.accepted ++ items
  delivered := channel.delivered
  contents := channel.contents ++ items
  conserved := by
    rw [← List.append_assoc, channel.conserved]

/-- Remove items at the front. -/
def get (channel : Fifo α) (count : Nat) : Fifo α where
  accepted := channel.accepted
  delivered := channel.delivered ++ channel.contents.take count
  contents := channel.contents.drop count
  conserved := by
    rw [List.append_assoc, List.take_append_drop, channel.conserved]

@[simp] theorem put_accepted (channel : Fifo α) (items : List α) :
    (channel.put items).accepted = channel.accepted ++ items :=
  rfl

@[simp] theorem get_delivered (channel : Fifo α) (count : Nat) :
    (channel.get count).delivered =
      channel.delivered ++ channel.contents.take count :=
  rfl

/-- What came out is a prefix of what went in. -/
theorem delivered_isPrefix (channel : Fifo α) :
    channel.delivered <+: channel.accepted :=
  ⟨channel.contents, channel.conserved⟩

/-- The three lengths add up. -/
theorem length_accepted (channel : Fifo α) :
    channel.accepted.length =
      channel.delivered.length + channel.contents.length := by
  rw [← channel.conserved, List.length_append]

/-- An empty channel has delivered everything it accepted. -/
theorem delivered_of_contents_nil
    {channel : Fifo α}
    (drained : channel.contents = []) :
    channel.delivered = channel.accepted := by
  rw [← channel.conserved, drained, List.append_nil]

end Fifo

end Channel
