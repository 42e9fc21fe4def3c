import ApiKeys.Logging
import ApiKeys.Proofs.Expiration.Order
import ApiKeys.Proofs.Expiration.Patterns
import ApiKeys.Proofs.Expiration.Stored
import ApiKeys.Proofs.Key.Parts
import ApiKeys.Proofs.Key.Renewal
import ApiKeys.Proofs.Logging
import ApiKeys.Proofs.Rejection
import ApiKeys.Proofs.Session.Contract
import ApiKeys.Proofs.Session.Expiry
import ApiKeys.Proofs.Session.History
import ApiKeys.Proofs.Session.Identifiers
import ApiKeys.Proofs.Session.Listing
import ApiKeys.Proofs.Session.Seeding
import ApiKeys.Proofs.Session.TimeOrder
import ApiKeys.Proofs.Settings.Cache
import ApiKeys.Proofs.Settings.Resolution
