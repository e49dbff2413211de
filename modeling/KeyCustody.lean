import KeyCustody.Base64
import KeyCustody.Binary64
import KeyCustody.Bootstrap
import KeyCustody.ByteString
import KeyCustody.ByteSupply
import KeyCustody.Cipher.Aes256
import KeyCustody.Cipher.Gcm
import KeyCustody.Collector
import KeyCustody.CommandLine
import KeyCustody.Credential
import KeyCustody.Credential.PhcString
import KeyCustody.Custody
import KeyCustody.CustodyError
import KeyCustody.DatabaseError
import KeyCustody.DatabaseFile
import KeyCustody.DatabaseUrl
import KeyCustody.DigestStore
import KeyCustody.DigestTable
import KeyCustody.Directory
import KeyCustody.Document
import KeyCustody.Envelope
import KeyCustody.EnvironmentFile
import KeyCustody.Field256
import KeyCustody.Gate
import KeyCustody.Hash.Argon2
import KeyCustody.Hash.Blake2b
import KeyCustody.Hash.Hmac
import KeyCustody.Hash.Sha256
import KeyCustody.Hexadecimal
import KeyCustody.KeyError
import KeyCustody.KeyPiece
import KeyCustody.KeyPiece.Combine
import KeyCustody.KeyPiece.Split
import KeyCustody.Keystore
import KeyCustody.Main
import KeyCustody.Program
import KeyCustody.Proofs.Bootstrap
import KeyCustody.Proofs.Custody.Ceremony
import KeyCustody.Proofs.Custody.Quorum
import KeyCustody.Proofs.Custody.Run
import KeyCustody.Proofs.Field256
import KeyCustody.Proofs.KeyPiece.Interpolation
import KeyCustody.Proofs.KeyPiece.Polynomials
import KeyCustody.Proofs.KeyPiece.Recovery
import KeyCustody.Proofs.KeyPiece.Secrecy
import KeyCustody.RootKeyDigest
import KeyCustody.SealedStream.Chunk
import KeyCustody.SealedStream.OpeningReader
import KeyCustody.SealedStream.Output
import KeyCustody.SealedStream.SealingReader
import KeyCustody.SealedStream.Source
import KeyCustody.Secret
import KeyCustody.Service.JsonText
import KeyCustody.Service.MediaType
import KeyCustody.Service.Operation
import KeyCustody.Service.ResponseText
import KeyCustody.Service.Server
import KeyCustody.Service.UnsealRequest
import KeyCustody.Settings
import KeyCustody.Settings.Decoding
import KeyCustody.Settings.Layer
import KeyCustody.Settings.Source
import KeyCustody.Text.Alphanumeric
import KeyCustody.Text.Blank
import KeyCustody.Text.Numeral
import KeyCustody.Text.Occurrence
import KeyCustody.Text.PercentEncoding
import KeyCustody.Text.Quoted
import KeyCustody.Text.Unprintable
import KeyCustody.Text.Utf8
import KeyCustody.Toml
import KeyCustody.Toml.Entries
import KeyCustody.Toml.Layout
import KeyCustody.Toml.Moment
import KeyCustody.Toml.Number
import KeyCustody.Toml.Quotation
import KeyCustody.Toml.Value
import KeyCustody.Variables
import KeyCustody.WrappedKey
import KeyCustody.Proofs.Cipher.Gcm
import KeyCustody.Proofs.Custody.Leftover
import KeyCustody.Proofs.Custody.Liveness
import KeyCustody.Proofs.SealedStream.Filling
import KeyCustody.Proofs.SealedStream.Format
import KeyCustody.Proofs.SealedStream.Reading
import KeyCustody.Proofs.SealedStream.Refilling
import KeyCustody.Proofs.SealedStream.Openable
import KeyCustody.Proofs.SealedStream.PlacedChunk
import KeyCustody.Proofs.SealedStream.Sealing
import KeyCustody.Proofs.SealedStream.Opening
import KeyCustody.Proofs.SealedStream.Log
import KeyCustody.Proofs.SealedStream.History
import KeyCustody.Proofs.SealedStream.Failure
import KeyCustody.Proofs.SealedStream.Limit
import KeyCustody.Proofs.SealedStream.Tampering
import KeyCustody.Proofs.Hexadecimal
import KeyCustody.Proofs.WrappedKey
import KeyCustody.Proofs.Envelope
import KeyCustody.Proofs.DigestStore
import KeyCustody.Proofs.Bootstrap.Once
import KeyCustody.Proofs.Custody.Alike
import KeyCustody.Proofs.Custody.Outage
import KeyCustody.Proofs.Service.Routing
import KeyCustody.Proofs.Service.Run
import KeyCustody.Proofs.Service.Sealed
import KeyCustody.Proofs.Service.Threshold
import KeyCustody.Proofs.Collector.Gathered
import KeyCustody.Proofs.Keystore
import KeyCustody.Proofs.Settings.Resolution
import KeyCustody.Proofs.DigestStore.Interchangeable
import KeyCustody.Proofs.DigestStore.StoredRow
import KeyCustody.Proofs.Field256.Quotient
import KeyCustody.Proofs.KeyPiece.Combination
import KeyCustody.Proofs.KeyPiece.OneShort
import KeyCustody.Proofs.KeyPiece.Corruption
import KeyCustody.Proofs.Custody.Replies
import KeyCustody.Proofs.DigestTable
import KeyCustody.Proofs.Gate
import KeyCustody.Proofs.Text
import KeyCustody.Proofs.AllowList
import KeyCustody.Proofs.DatabaseUrl
import KeyCustody.Proofs.KeyPiece.Written
import KeyCustody.Proofs.Base64
import KeyCustody.Proofs.Credential
import KeyCustody.Proofs.Credential.PhcString
import KeyCustody.Proofs.Hash.Argon2
import KeyCustody.Proofs.SealedStream.Ranges
import KeyCustody.Proofs.SealedStream.Bounds
import KeyCustody.Proofs.SealedStream.Conservation
import KeyCustody.Proofs.EnvironmentFile
import KeyCustody.Proofs.Directory
import KeyCustody.Proofs.Program
