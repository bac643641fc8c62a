import BrokerLink.Record.Part

/-!
# Records of news

Bulletins, articles, headlines of the past, and who provides them.
-/

namespace BrokerLink
namespace Record

open Reader

def newsBulletins : Reader Event := do
  skip
  let bulletinId ← int32
  let kind ← int32
  let message ← string
  let exchange ← string
  return .updateNewsBulletin bulletinId kind message exchange

def newsArticle : Reader Event := do
  let id ← int32
  let kind ← int32
  let text ← string
  return .newsArticle id kind text

def newsProvider : Reader NewsProvider := do
  let code ← string
  let name ← string
  return { code, name }

def newsProviders : Reader Event := do
  let providers ← list newsProvider
  return .newsProviders providers

def historicalNews : Reader Event := do
  let id ← int32
  let time ← string
  let providerCode ← string
  let articleId ← string
  let headline ← string
  return .historicalNews id time providerCode articleId headline

def historicalNewsEnd : Reader Event := do
  let id ← int32
  let hasMore ← bool
  return .historicalNewsEnd id hasMore

end Record
end BrokerLink
