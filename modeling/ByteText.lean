import ByteText.Field
import ByteText.Host
import ByteText.Recipe
import ByteText.Reply
import ByteText.Source
import ByteText.Proofs.NumeralUniqueness
import ByteText.Proofs.NumeralLength
import ByteText.Proofs.SymbolReading
import ByteText.Proofs.BufferedReading
import ByteText.Proofs.Base58RoundTrip
import ByteText.Proofs.CheckedReading
import ByteText.Proofs.SymbolExchange
import ByteText.Proofs.PositionalNumeral
import ByteText.Proofs.ForeignCharacter
import ByteText.Proofs.TableFault
import ByteText.Proofs.CharacterOffset
import ByteText.Proofs.SymbolPosition
import ByteText.Proofs.SizeBounds
import ByteText.Proofs.HexReading
import ByteText.Proofs.FieldReading
import ByteText.Proofs.CellHost
import ByteText.Proofs.HostReading
import ByteText.Proofs.ReplyReading
import ByteText.Proofs.RecipeRun
import ByteText.Proofs.QuotedReading
import ByteText.Proofs.MessageReading
