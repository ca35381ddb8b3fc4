import SlotSum.Inspect
import SlotSum.Session.Step
import SlotSum.Proofs.Expansion.Block
import SlotSum.Proofs.Expansion.Comparison
import SlotSum.Proofs.Expansion.Constructor
import SlotSum.Proofs.Expansion.Derives
import SlotSum.Proofs.Expansion.Forms
import SlotSum.Proofs.Expansion.Hygiene
import SlotSum.Proofs.Expansion.Names
import SlotSum.Proofs.Expansion.Shadowing
import SlotSum.Proofs.Payload.Display
import SlotSum.Proofs.Schema.Coverage
import SlotSum.Proofs.Schema.Grouping
import SlotSum.Proofs.Schema.OptionLists
import SlotSum.Proofs.Schema.Permutation
import SlotSum.Proofs.Schema.Precision
import SlotSum.Proofs.Schema.Recursion
import SlotSum.Proofs.Schema.Reflexive
import SlotSum.Proofs.Schema.Withheld
import SlotSum.Proofs.Session.Occupancy
import SlotSum.Proofs.Source.Removal
import SlotSum.Proofs.Value.Conversion
import SlotSum.Proofs.Value.Hashing
import SlotSum.Proofs.Value.PartialDispatch
import SlotSum.Proofs.Value.Variants
import SlotSum.Proofs.Wire.Format
import SlotSum.Proofs.Wire.Generated
