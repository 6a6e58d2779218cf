import ResourcePool.Block.Word
import ResourcePool.Main
import ResourcePool.Session
import ResourcePool.Proofs.Address.Hexadecimal
import ResourcePool.Proofs.Address.V4
import ResourcePool.Proofs.Address.V6
import ResourcePool.Proofs.Block.Fit
import ResourcePool.Proofs.Network.Size
import ResourcePool.Proofs.Result
import ResourcePool.Proofs.Pool.Reading
import ResourcePool.Proofs.Pool.Blocks
import ResourcePool.Proofs.Session.Run
import ResourcePool.Proofs.Session.Blocks
import ResourcePool.Proofs.Pool.Agreement
import ResourcePool.Proofs.IntSet
import ResourcePool.Proofs.Unit.Address
import ResourcePool.Proofs.Unit.Vlan
import ResourcePool.Proofs.Unit.RandomInt32
import ResourcePool.Proofs.Unit.UniqueId
import ResourcePool.Proofs.Session.Units
import ResourcePool.Proofs.Block.Cover
import ResourcePool.Proofs.Pool.Request
import ResourcePool.Proofs.Pool.Accounting
import ResourcePool.Proofs.Block.Row
import ResourcePool.Proofs.Session.Capacity
import ResourcePool.Proofs.Session.Packing
import ResourcePool.Proofs.Pool.Embedding
import ResourcePool.Proofs.Pool.Order
import ResourcePool.Proofs.Address.Canonical
import ResourcePool.Proofs.Numeral
import ResourcePool.Proofs.Json.Quoted
import ResourcePool.Proofs.Json.Token
import ResourcePool.Proofs.Json.Bag
import ResourcePool.Proofs.Json.Granted
import ResourcePool.Proofs.Address.Unpadded
import ResourcePool.Proofs.Pool.RouteDistinguisher
import ResourcePool.Proofs.Session.RouteDistinguishers
import ResourcePool.Proofs.Word.Basic
import ResourcePool.Proofs.Word.Search
import ResourcePool.Proofs.Word.Address
import ResourcePool.Proofs.Word.Network
import ResourcePool.Proofs.Word.Vlan
import ResourcePool.Proofs.Word.Counter
import ResourcePool.Proofs.Word.Call
import ResourcePool.Proofs.Word.Fit
import ResourcePool.Proofs.Double.Whole
import ResourcePool.Proofs.Value.Coercion
import ResourcePool.Proofs.Unit.Counter
import ResourcePool.Proofs.Text.Replace
import ResourcePool.Proofs.Unit.IdText
import ResourcePool.Proofs.Block.NextFree
import ResourcePool.Proofs.Block.Refusal
import ResourcePool.Proofs.Pool.Wanted
import ResourcePool.Proofs.Pool.Misaligned
import ResourcePool.Proofs.Unit.Draws
import ResourcePool.Proofs.Address.Quad
import ResourcePool.Proofs.Pool.ValueField
import ResourcePool.Proofs.Unit.Single
import ResourcePool.Proofs.Unit.Embedding
import ResourcePool.Proofs.Network.Mask
import ResourcePool.Proofs.Word.Climb
import ResourcePool.Proofs.Text.Parts
import ResourcePool.Proofs.Network.Text
import ResourcePool.Proofs.Address.ZeroRuns
import ResourcePool.Proofs.Address.Elision
import ResourcePool.Proofs.Network.Nested
import ResourcePool.Proofs.Block.Shift
