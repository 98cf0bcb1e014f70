import UserConfigs.Config.Read
import UserConfigs.Main
import UserConfigs.Emit.Logged
import UserConfigs.Proofs.TagReading
import UserConfigs.Proofs.Writes
import UserConfigs.Proofs.Filling
import UserConfigs.Proofs.Runs
import UserConfigs.Proofs.Decoding
import UserConfigs.Proofs.ReadBack
import UserConfigs.Proofs.Sites
import UserConfigs.Proofs.Forecast
import UserConfigs.Proofs.ManyRuns
import UserConfigs.Proofs.Telling
import UserConfigs.Proofs.Spellings
import UserConfigs.Proofs.BlockReading
import UserConfigs.Proofs.Segments
import UserConfigs.Proofs.Ascending
import UserConfigs.Proofs.Showing
import UserConfigs.Proofs.Braces
import UserConfigs.Proofs.Lines
import UserConfigs.Proofs.LineDecoding
import UserConfigs.Proofs.LineReading
import UserConfigs.Proofs.Escapes
import UserConfigs.Proofs.Letters
import UserConfigs.Proofs.CutOff
import UserConfigs.Proofs.Recovery
import UserConfigs.Proofs.Keeping
import UserConfigs.Proofs.Appended
import UserConfigs.Proofs.Observing
import UserConfigs.Proofs.Binding
import UserConfigs.Proofs.DashedTags
import UserConfigs.Proofs.Unterminated
import UserConfigs.Proofs.Grouping
import UserConfigs.Proofs.Sums
import UserConfigs.Proofs.UserPaths
